import Mender.Tool.Modes
import Mender.Tool.Sorting
import Mender.Tool.Work

/-!
# Directories

Tools that tell what directories hold and where names lead to.
-/

namespace Mender

namespace Listing

/-- How files are listed. -/
structure Style where
  /-- Names that start with a point are listed. -/
  hidden : Bool := false
  /-- The directory itself and the one above it are listed. -/
  dots : Bool := false
  /-- Directories are listed as files are. -/
  asFiles : Bool := false
  recursive : Bool := false
  reverse : Bool := false
  long : Bool := false
  numeric : Bool := false
  blocks : Bool := false
  quoted : Bool := false
  /-- Marks behind names: for directories only, or for programs too. -/
  slashes : Bool := false
  marks : Bool := false
  /-- The order: by names, by versions, by size, by age, by what follows the last point, or none. -/
  order : Char := ' '
  /-- The names stand in one line with this text between them. -/
  between : Option Octets := none
  deriving Repr

/-- What is listed: a name and the place that it leads to. -/
structure Item where
  name : Octets
  place : TreePlace
  node : Shell.Node

/-- The size of a file or directory. -/
def Item.size (i : Item) : Nat :=
  match i.node with
  | .file content => content.length
  | .directory => 4096
  | .device _ | .program => 0
  | .link path => path.utf8ByteSize

/-- The blocks that a file takes, in units of 1024 bytes. -/
def Item.blockCount (i : Item) : Nat :=
  (i.size + 4095) / 4096 * 4

/-- A file can be run. -/
def Item.isProgram (s : Scene) (i : Item) : Bool :=
  match i.node with
  | .file _ | .program => s.machine.isExecutable i.place
  | _ => false

/-- The name as it is listed. -/
def Item.label (s : Scene) (style : Style) (i : Item) : Octets :=
  let name := if style.quoted then "\"" ++ i.name ++ "\"" else i.name
  if i.node = .directory && (style.slashes || style.marks) then name ++ "/"
  else if style.marks && i.isProgram s then name ++ "*"
  else
    match i.node with
    | .link path =>
      if style.long then name ++ " -> " ++ Octets.ofText path
      else if style.marks then name ++ "@"
      else name
    | _ => name

/-- How many names lead to a file or directory. -/
def Item.links (s : Scene) (i : Item) : Nat :=
  match i.node with
  | .directory =>
    2 + ((s.machine.names i.place).filter fun n =>
      s.machine.node? (i.place ++ [Octets.toText n]) = some .directory).length
  | _ => 1

/-- The letter for the kind of a file. -/
def Item.kindLetter (i : Item) : Octets :=
  match i.node with
  | .directory => "d"
  | .file _ | .program => "-"
  | .device _ => "c"
  | .link _ => "l"

/-- The lines for items with all that is known of them. -/
def longLines (s : Scene) (style : Style) (items : List Item) : List Octets :=
  let rows := items.map fun i =>
    (i, toString (i.links s), toString i.size)
  let linkWidth := rows.foldl (fun n r => max n r.2.1.length) 0
  let sizeWidth := rows.foldl (fun n r => max n r.2.2.length) 0
  let owner := if style.numeric then "0" else "root"
  rows.map fun (i, links, size) =>
    let mode := i.kindLetter ++ Mode.letters (s.machine.mode i.place)
    let links := Showing.rightAligned linkWidth links
    let size := Showing.rightAligned sizeWidth size
    s!"{mode} {links} {owner} {owner} {size} Jan  1 00:00 {i.label s style}"

/-- What follows the last point of a name. -/
def extension (name : Octets) : List Char :=
  let cs := name.toList
  if cs.contains '.' then '.' :: Text.afterLast '.' cs else []

/-- Puts items in order. -/
def sorted (s : Scene) (style : Style) (items : List Item) : List Item :=
  let byName := items.mergeSort fun a b => a.name ≤ b.name
  let age (i : Item) : Nat := s.machine.tree.entries.findIdx fun e => e.1 = i.place
  let ordered := match style.order with
    | 'S' => byName.mergeSort fun a b => b.size ≤ a.size
    | 't' => byName.mergeSort fun a b => age b ≤ age a
    | 'X' => byName.mergeSort fun a b =>
        Sorting.compareTexts (extension a.name) (extension b.name) != .gt
    | 'v' => byName.mergeSort fun a b =>
        Sorting.compareNames a.name.toList b.name.toList != .gt
    | 'U' => items
    | _ => byName
  if style.reverse then ordered.reverse else ordered

/-- The lines for items. -/
def listed (s : Scene) (style : Style) (items : List Item) : List Octets :=
  if style.long then longLines s style items
  else
    match style.between with
    | some b =>
      if items.isEmpty then []
      else [Text.joined (if b = "," then ", " else b) (items.map (Item.label s style))]
    | none =>
      let width := items.foldl (fun n i => max n (toString i.blockCount).length) 0
      items.map fun i =>
        let label := i.label s style
        if style.blocks then
          Showing.rightAligned width (toString i.blockCount) ++ " " ++ label
        else label

/-- What a directory holds. -/
def itemsIn (s : Scene) (style : Style) (place : TreePlace) : List Item :=
  let inside := (s.machine.names place).filterMap fun n =>
    if n.startsWith "." && !style.hidden then none
    else
      let p := place ++ [Octets.toText n]
      (s.machine.node? p).map fun node => ⟨n, p, node⟩
  if style.dots then
    ⟨".", place, .directory⟩ :: ⟨"..", place.dropLast, .directory⟩ :: inside
  else inside

/-- The lines for a directory; the depth of the tree is bounded by `fuel`. -/
def linesOf (s : Scene) (style : Style) (heading : Bool) : Nat → Octets → TreePlace → List Octets
  | 0, _, _ => []
  | fuel + 1, name, place =>
    let items := sorted s style (itemsIn s style place)
    let total := (items.map Item.blockCount).foldl (· + ·) 0
    let own := (if heading then [name ++ ":"] else []) ++
      (if style.long || style.blocks then [s!"total {total}"] else []) ++
      listed s style items
    if style.recursive then
      let below := items.filter fun i => i.node = .directory && i.name != "." && i.name != ".."
      own ++ below.flatMap fun i =>
        "" :: linesOf s style true fuel (FileName.join name i.name) i.place
    else own

/-- The options of `ls`. -/
def table : OptionTable :=
  { flags := "1aAbBcCdfFgGhHiklLmnNopqQrRsStuUvxXZ", valued := "ITw"
    long := [⟨"all", 'a', .never⟩, ⟨"almost-all", 'A', .never⟩, ⟨"directory", 'd', .never⟩,
      ⟨"recursive", 'R', .never⟩, ⟨"reverse", 'r', .never⟩, ⟨"size", 's', .never⟩,
      ⟨"classify", 'F', .maybe⟩, ⟨"quote-name", 'Q', .never⟩, ⟨"human-readable", 'h', .never⟩,
      ⟨"color", 'G', .maybe⟩, ⟨"sort", 'O', .always⟩, ⟨"time", 'T', .always⟩,
      ⟨"group-directories-first", 'H', .never⟩, ⟨"numeric-uid-gid", 'n', .never⟩] }

/-- How a call wants files to be listed. -/
def styleOf (call : Call) : Style :=
  let order : Char := match call.value? 'O' with
    | some "size" => 'S'
    | some "time" => 't'
    | some "version" => 'v'
    | some "extension" => 'X'
    | some "none" => 'U'
    | some _ => ' '
    | none => (call.last? "SXtvUf").getD ' '
  { hidden := call.has 'a' || call.has 'A' || call.has 'f', dots := call.has 'a' || call.has 'f'
    asFiles := call.has 'd', recursive := call.has 'R', reverse := call.has 'r'
    long := ["l", "n", "g", "o"].any fun n => call.options.any (·.name = n)
    numeric := call.has 'n', blocks := call.has 's', quoted := call.has 'Q'
    slashes := call.has 'p', marks := call.has 'F'
    order := if order = 'f' then 'U' else order
    between := match call.last? "1Cmxl" with
      | some 'm' => some ","
      | some 'C' => some "  "
      | some 'x' => some "  "
      | _ => none }

/-- The greatest depth of a tree that is listed. -/
def maxDepth : Nat := 1000

/-- Lists files and directories. -/
def ls : Tool := .withOptions "ls" 2 table fun call s =>
  let style := styleOf call
  let style := if style.dots && call.last? "aA" = some 'A' then { style with dots := false }
    else style
  let names := if call.operands.isEmpty then ["."] else call.operands
  let keepsLinks : Bool := style.long || style.asFiles || style.marks
  let found := names.map fun name =>
    let itself := s.findItself name
    match itself, s.find name with
    | .ok (_, .link _), .ok r => (name, if keepsLinks then itself else .ok r)
    | .ok (_, .link _), .error _ => (name, itself)
    | _, r => (name, r)
  let complaints := found.filterMap fun (name, r) => match r with
    | .error fault =>
      some (Ran.complaint 2 s!"ls: cannot access {Naming.quoted name}: {fault.text}")
    | .ok _ => none
  let items := found.filterMap fun (name, r) => match r with
    | .ok (place, node) => some (⟨name, place, node⟩ : Item)
    | .error _ => none
  let isOpened (i : Item) : Bool := i.node = .directory && !style.asFiles
  let files := sorted s style (items.filter fun i => !isOpened i)
  let directories := sorted s style (items.filter isOpened)
  let heading : Bool := 1 < names.length || style.recursive
  let groups := (if files.isEmpty then [] else [listed s style files]) ++
    directories.map fun i => linesOf s style heading maxDepth i.name i.place
  (Ran.all complaints).then_ (.output (Octets.lines (groups.intersperse [""]).flatten))

end Listing

namespace FileName

/-- A name without a text at its end, unless it is nothing else. -/
def withoutEnd (name suffix : Octets) : Octets :=
  if suffix != "" && name.endsWith suffix && name != suffix then
    String.ofList (name.toList.take (name.length - suffix.length))
  else name

/-- Prints the last components of names. -/
def basename : Tool :=
  let table : OptionTable :=
    { flags := "az", valued := "s", inOrder := true
      long := [⟨"multiple", 'a', .never⟩, ⟨"suffix", 's', .always⟩, ⟨"zero", 'z', .never⟩] }
  .withOptions "basename" 1 table fun call _ =>
    let stop := if call.has 'z' then "\x00" else "\n"
    let print (names : List Octets) (suffix : Octets) : Ran :=
      .output (String.join (names.map fun n => withoutEnd (base n) suffix ++ stop))
    match call.operands with
    | [] => .complaint 1 "basename: missing operand\nTry 'basename --help' for more information."
    | a :: rest =>
      if call.has 'a' || call.has 's' then print (a :: rest) ((call.value? 's').getD "")
      else
        match rest with
        | [] => print [a] ""
        | [suffix] => print [a] suffix
        | _ :: extra :: _ =>
          .complaint 1 (s!"basename: extra operand {Naming.quoted extra}\n" ++
            "Try 'basename --help' for more information.")

/-- Prints the directories of names. -/
def dirname : Tool :=
  let table : OptionTable := { flags := "z", long := [⟨"zero", 'z', .never⟩] }
  .withOptions "dirname" 1 table fun call _ =>
    let stop := if call.has 'z' then "\x00" else "\n"
    if call.operands.isEmpty then
      .complaint 1 "dirname: missing operand\nTry 'dirname --help' for more information."
    else .output (String.join (call.operands.map fun n => directory n ++ stop))

/-- The text of a place. -/
def ofPlace (p : TreePlace) : Octets :=
  Octets.ofText ("/" ++ Text.joined "/" p)

/-- The place of a name, whether there is anything or not. -/
def placeAnyway (here : TreePlace) (name : Octets) : TreePlace :=
  let start := if name.startsWith "/" then [] else here
  ((Text.splitText ['/'] (Octets.toText name).toList).map String.ofList).foldl
    (fun p part => if part = "" || part = "." then p
      else if part = ".." then p.dropLast else p ++ [part])
    start

/-- The name of a place as seen from another. -/
def relative (from_ to_ : TreePlace) : Octets :=
  let common := ((from_.zip to_).takeWhile fun (a, b) => a = b).length
  let parts := List.replicate (from_.length - common) ".." ++ to_.drop common
  if parts.isEmpty then "." else Octets.ofText (Text.joined "/" parts)

/-- The place of a name. All of it, or all but its last component, or nothing, has to be there. -/
def resolve (s : Scene) (whole missing : Bool) (name : Octets) : Except PathFault TreePlace := do
  if missing then
    match s.machine.locate s.here name with
    | .ok p => return p
    | .error _ => return placeAnyway s.here name
  else
    let p ← s.machine.locate s.here (if whole then name else withoutSlashes name)
    if whole && (s.machine.node? p).isNone then .error .notFound else return p

/-- Prints where names lead to. -/
def realpath : Tool :=
  let table : OptionTable :=
    { flags := "emLPqsz"
      long := [⟨"canonicalize-existing", 'e', .never⟩, ⟨"canonicalize-missing", 'm', .never⟩,
        ⟨"quiet", 'q', .never⟩, ⟨"relative-to", 'r', .always⟩, ⟨"no-symlinks", 's', .never⟩] }
  .withOptions "realpath" 1 table fun call s =>
    if call.operands.isEmpty then
      .complaint 1 "realpath: missing operand\nTry 'realpath --help' for more information."
    else
      Ran.all (call.operands.map fun name =>
        match resolve s (call.has 'e') (call.has 'm') name with
        | .ok p => .output ((match call.value? 'r' with
            | some d => relative (placeAnyway s.here d) p
            | none => ofPlace p) ++ "\n")
        | .error fault =>
          if call.has 'q' then .ended 1 else .unreadable "realpath" 1 name fault)

/-- Prints where links lead to, by one step or to the end. -/
def readlink : Tool :=
  let table : OptionTable :=
    { flags := "efmnqsvz"
      long := [⟨"canonicalize", 'f', .never⟩, ⟨"canonicalize-existing", 'e', .never⟩,
        ⟨"canonicalize-missing", 'm', .never⟩, ⟨"no-newline", 'n', .never⟩] }
  .withOptions "readlink" 1 table fun call s =>
    if call.operands.isEmpty then
      .complaint 1 "readlink: missing operand\nTry 'readlink --help' for more information."
    else
      Ran.all (call.operands.map fun name =>
        if !(call.has 'e' || call.has 'f' || call.has 'm') then
          match s.findItself name with
          | .ok (_, .link path) => .output (Octets.ofText path ++ if call.has 'n' then "" else "\n")
          | _ => .ended 1
        else
          match resolve s (call.has 'e') (call.has 'm') name with
          | .ok p => .output (ofPlace p ++ if call.has 'n' then "" else "\n")
          | .error fault =>
            if call.has 'v' then .unreadable "readlink" 1 name fault else .ended 1)

/-- Prints the directory that the tool runs in. -/
def pwd : Tool := fun _ s =>
  .output (ofPlace s.here ++ "\n")

end FileName

namespace FileStatus

/-- The kind of a file in words. -/
def kind (i : Listing.Item) : Octets :=
  match i.node with
  | .file [] => "regular empty file"
  | .file _ | .program => "regular file"
  | .directory => "directory"
  | .device _ => "character special file"
  | .link _ => "symbolic link"

/-- What a letter after a percent sign stands for. -/
def field (s : Scene) (i : Listing.Item) : Char → Octets
  | 'n' => i.name
  | 's' => toString i.size
  | 'F' => kind i
  | 'a' => Mode.digits (s.machine.mode i.place)
  | 'A' => i.kindLetter ++ Mode.letters (s.machine.mode i.place)
  | 'h' => toString (i.links s)
  | 'U' => "root"
  | 'G' => "root"
  | 'u' => "0"
  | 'g' => "0"
  | 'b' => toString (i.blockCount * 2)
  | 'B' => "512"
  | 'N' =>
    match i.node with
    | .link path => s!"{Naming.quoted i.name} -> {Naming.quoted (Octets.ofText path)}"
    | _ => Naming.quoted i.name
  | '%' => "%"
  | _ => "?"

/-- Lays out what is known of a file. -/
def laidOut (s : Scene) (i : Listing.Item) (escapes : Bool) : List Char → Octets
  | '%' :: c :: cs => field s i c ++ laidOut s i escapes cs
  | '\\' :: 'n' :: cs => (if escapes then "\n" else "\\n") ++ laidOut s i escapes cs
  | '\\' :: 't' :: cs => (if escapes then "\t" else "\\t") ++ laidOut s i escapes cs
  | c :: cs => String.singleton c ++ laidOut s i escapes cs
  | [] => ""

/-- Tells what is known of files. -/
def stat : Tool :=
  let table : OptionTable :=
    { flags := "Lft", valued := "c"
      long := [⟨"format", 'c', .always⟩, ⟨"printf", 'P', .always⟩, ⟨"terse", 't', .never⟩] }
  .withOptions "stat" 1 table fun call s =>
    if call.operands.isEmpty then
      .complaint 1 "stat: missing operand\nTry 'stat --help' for more information."
    else
      Ran.all (call.operands.map fun name =>
        match if call.has 'L' then s.find name else s.findItself name with
        | .error fault =>
          .complaint 1 s!"stat: cannot statx {Naming.quoted name}: {fault.text}"
        | .ok (place, node) =>
          let i : Listing.Item := ⟨name, place, node⟩
          match call.value? 'P' with
          | some f => .output (laidOut s i true f.toList)
          | none =>
            let f := (call.value? 'c').getD "  File: %n\n  Size: %s"
            .output (laidOut s i false f.toList ++ "\n"))

end FileStatus

end Mender
