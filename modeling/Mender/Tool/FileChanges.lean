import Mender.Tool.Modes
import Mender.Tool.Work

/-!
# Changing files

Tools that make, remove, copy and move files and directories.
-/

namespace Mender.FileChanges

open Working Naming

/-- The call of a tool is refused. -/
def refused (tool message : Octets) : Ran :=
  .complaint 1 s!"{tool}: {message}\nTry '{tool} --help' for more information."

/-! ## Making -/

/-- Makes a directory. -/
def makeDirectory (mode : Option Nat) (verbose : Bool) (name : Octets) : Working Unit := do
  let refuse (reason : Octets) : Working Unit :=
    complain s!"mkdir: cannot create directory {quoted name}: {reason}"
  match ← place (FileName.withoutSlashes name) with
  | .error fault => refuse fault.text
  | .ok p =>
    if (← node p).isSome then refuse "File exists"
    else
      let usual ← newMode 0o777
      put p .directory (mode.getD usual)
      if verbose then say s!"mkdir: created directory {quoted name}"

/-- The names of all directories on the way to a name. -/
def wayTo (name : Octets) : List Octets :=
  let parts := (Text.splitText ['/'] (FileName.withoutSlashes name).toList).map String.ofList
  (List.range parts.length).filterMap fun i =>
    if (parts[i]?).getD "" = "" then none else some (Text.joined "/" (parts.take (i + 1)))

/-- Makes a directory and all directories on the way to it. -/
def makeWay (mode : Option Nat) (verbose : Bool) (name : Octets) : Working Unit := do
  let way := wayTo name
  let mut blocked := false
  for step in way do
    if !blocked then
      match ← place step with
      | .error fault =>
        complain s!"mkdir: cannot create directory {quoted step}: {fault.text}"
        blocked := true
      | .ok p =>
        match ← node p with
        | some .directory => pure ()
        | some _ =>
          let reason := if step = FileName.withoutSlashes name then "File exists"
            else "Not a directory"
          complain s!"mkdir: cannot create directory {quoted step}: {reason}"
          blocked := true
        | none =>
          let usual ← newMode 0o777
          let isLast : Bool := some step = way.getLast?
          put p .directory (if isLast then mode.getD usual else usual)
          if verbose then say s!"mkdir: created directory {quoted step}"

/-- Makes directories. -/
def mkdir : Tool :=
  let table : OptionTable :=
    { flags := "pv", valued := "m"
      long := [⟨"parents", 'p', .never⟩, ⟨"verbose", 'v', .never⟩, ⟨"mode", 'm', .always⟩] }
  .withOptions "mkdir" 1 table fun call scene =>
    if call.operands.isEmpty then refused "mkdir" "missing operand"
    else
      let mode := call.value? 'm'
      let change := mode.bind (Mode.read? scene.umask)
      if mode.isSome && change.isNone then
        .complaint 1 s!"mkdir: invalid mode {quoted (mode.getD default)}"
      else
        let bits := change.map fun f => f true 0o777
        Working.run (call.operands.forM fun name =>
          if call.has 'p' then makeWay bits (call.has 'v') name
          else makeDirectory bits (call.has 'v') name) scene

/-- Makes an empty file where there is none. -/
def touchOne (create : Bool) (name : Octets) : Working Unit := do
  match ← place name with
  | .error fault =>
    if create then complain s!"touch: cannot touch {quoted name}: {fault.text}"
    else if fault = .notDirectory then
      complain s!"touch: setting times of {quoted name}: {fault.text}"
  | .ok p =>
    if (← node p).isNone && create then
      put p (.file []) (← newMode 0o666)

/-- Makes empty files. -/
def touch : Tool :=
  let table : OptionTable :=
    { flags := "acfmh", valued := "drt"
      long := [⟨"no-create", 'c', .never⟩, ⟨"date", 'd', .always⟩, ⟨"reference", 'r', .always⟩,
        ⟨"time", 'T', .always⟩, ⟨"no-dereference", 'h', .never⟩] }
  .withOptions "touch" 1 table fun call scene =>
    if call.operands.isEmpty then refused "touch" "missing file operand"
    else
      match call.value? 'r' with
      | some reference =>
        match scene.find reference with
        | .error fault =>
          .complaint 1 s!"touch: failed to get attributes of {quoted reference}: {fault.text}"
        | .ok _ => Working.run (call.operands.forM (touchOne (!call.has 'c'))) scene
      | none => Working.run (call.operands.forM (touchOne (!call.has 'c'))) scene

/-! ## Removing -/

/-- A directory holds nothing. -/
def isEmptyDirectory (t : FileTree) (p : TreePlace) : Bool :=
  (t.names p).isEmpty

/-- Removes what is below a place, and the place. The depth of the tree is bounded by `fuel`. -/
def removeTree (verbose : Bool) : Nat → Octets → TreePlace → Working Unit
  | 0, _, _ => return ()
  | fuel + 1, name, p => do
    match ← node p with
    | some .directory =>
      if verbose then
        for child in (← get).scene.machine.names p do
          removeTree verbose fuel (FileName.join name child) (p ++ [Octets.toText child])
      change fun t => t.remove p
      if verbose then say s!"removed directory {quoted name}"
    | _ =>
      change fun t => t.remove p
      if verbose then say s!"removed {quoted name}"

/-- The greatest depth of a tree that is walked. -/
def maxDepth : Nat := 1000

/-- How files are removed. -/
structure Removal where
  recursive : Bool
  force : Bool
  emptyDirectories : Bool
  verbose : Bool

/-- Removes a file. -/
def Removal.remove (r : Removal) (name : Octets) : Working Unit := do
  let refuse (reason : Octets) : Working Unit :=
    complain s!"rm: cannot remove {quoted name}: {reason}"
  let last := FileName.base name
  match ← placeItself name with
  | .error fault =>
    if !(r.force && (fault = .notFound || fault = .notDirectory)) then refuse fault.text
  | .ok p =>
    match ← node p with
    | none => if !r.force then refuse PathFault.notFound.text
    | some .directory =>
      let isEmpty := isEmptyDirectory (← files) p
      if !r.recursive && !(r.emptyDirectories && isEmpty) then
        refuse (if r.emptyDirectories then "Directory not empty" else "Is a directory")
      else if last = "." || last = ".." then
        complain (s!"rm: refusing to remove '.' or '..' directory: skipping {quoted name}")
      else if p.isEmpty then
        complain "rm: it is dangerous to operate recursively on '/'"
        complain "rm: use --no-preserve-root to override this failsafe"
      else removeTree r.verbose maxDepth (FileName.withoutSlashes name) p
    | some _ => removeTree r.verbose maxDepth name p

/-- Removes files. -/
def rm : Tool :=
  let table : OptionTable :=
    { flags := "dfiIrRv"
      long := [⟨"force", 'f', .never⟩, ⟨"recursive", 'r', .never⟩, ⟨"dir", 'd', .never⟩,
        ⟨"verbose", 'v', .never⟩, ⟨"interactive", 'j', .maybe⟩, ⟨"one-file-system", 'x', .never⟩,
        ⟨"no-preserve-root", 'N', .never⟩, ⟨"preserve-root", 'P', .maybe⟩] }
  .withOptions "rm" 1 table fun call scene =>
    let r : Removal :=
      { recursive := call.has 'r' || call.has 'R', force := call.last? "fi" = some 'f'
        emptyDirectories := call.has 'd', verbose := call.has 'v' }
    if call.operands.isEmpty && !r.force then refused "rm" "missing operand"
    else Working.run (call.operands.forM r.remove) scene

/-- Removes an empty directory. -/
def removeDirectory (verbose quiet isParent : Bool) (name : Octets) : Working Bool := do
  if verbose then say s!"rmdir: removing directory, {quoted name}"
  let refuse (reason : Octets) : Working Bool := do
    let what := if isParent then "directory " else ""
    complain s!"rmdir: failed to remove {what}{quoted name}: {reason}"
    return false
  match ← place (FileName.withoutSlashes name) with
  | .error fault => refuse fault.text
  | .ok p =>
    match ← node p with
    | none => refuse PathFault.notFound.text
    | some .directory =>
      let last := FileName.base name
      if last = "." then refuse "Invalid argument"
      else if isEmptyDirectory (← files) p then
        change fun t => t.remove p
        return true
      else if quiet then return false
      else refuse "Directory not empty"
    | some _ => refuse PathFault.notDirectory.text

/-- Removes empty directories. -/
def rmdir : Tool :=
  let table : OptionTable :=
    { flags := "pv"
      long := [⟨"parents", 'p', .never⟩, ⟨"verbose", 'v', .never⟩,
        ⟨"ignore-fail-on-non-empty", 'q', .never⟩] }
  .withOptions "rmdir" 1 table fun call scene =>
    if call.operands.isEmpty then refused "rmdir" "missing operand"
    else
      let remove := removeDirectory (call.has 'v') (call.has 'q')
      Working.run (call.operands.forM fun name => do
        let names := if call.has 'p' then (wayTo name).reverse else [name]
        let mut goesOn := true
        for n in names do
          if goesOn then goesOn ← remove (some n != names.head?) n) scene

/-! ## Copying and moving -/

/-- How files are copied. -/
structure Copying where
  /-- The name of the tool. -/
  tool : Octets := "cp"
  recursive : Bool := false
  keepsExisting : Bool := false
  preserves : Bool := false
  /-- Links are copied, and not what they lead to. -/
  keepsLinks : Bool := false
  verbose : Bool := false

/-- A target that is below a place. -/
def isInside (p target : TreePlace) : Bool :=
  p.isPrefixOf target

/-- Copies a file or a directory to a name. The depth of the tree is bounded by `fuel`. -/
def Copying.copy (c : Copying) : Nat → Octets → Octets → Working Unit
  | 0, _, _ => return ()
  | fuel + 1, source, target => do
    match ← find source with
    | .error fault => complain s!"{c.tool}: cannot stat {quoted source}: {fault.text}"
    | .ok (from_, node_) =>
      let mode := (← files).mode from_
      let allowed ← newMode (mode % 0o1000)
      let mode := if c.preserves then mode else allowed
      let told : Working Unit :=
        if c.verbose then say s!"{quoted source} -> {quoted target}" else return ()
      match ← linkOf source, c.keepsLinks with
      | some path, true =>
        match ← placeItself target with
        | .error fault =>
          complain s!"{c.tool}: cannot create symbolic link {quoted target}: {fault.text}"
        | .ok to_ =>
          change fun t => t.withLink to_ path
          told
      | _, _ =>
      match node_ with
      | .directory =>
        if !c.recursive then
          complain s!"{c.tool}: -r not specified; omitting directory {quoted source}"
        else
          match ← place (FileName.withoutSlashes target) with
          | .error fault =>
            complain s!"{c.tool}: cannot create directory {quoted target}: {fault.text}"
          | .ok to_ =>
            match ← node to_ with
            | some .directory =>
              if isInside from_ to_ && from_ != to_ then intoItself source target
              else children fuel source target from_
            | some _ => complain (s!"{c.tool}: cannot overwrite non-directory {quoted target} " ++
                s!"with directory {quoted source}")
            | none =>
              if isInside from_ to_ then intoItself source target
              else
                put to_ .directory mode
                told
                children fuel source target from_
      | _ =>
        let content : Utf8.Bytes := match node_ with
          | .file bytes => bytes
          | _ => []
        if target = "/dev/stdout" || target = "/dev/stderr" then
          let descriptor := if target = "/dev/stdout" then 1 else 2
          modify fun w =>
            { w with printed := (descriptor, Octets.ofBytes content) :: w.printed }
          return
        match ← place target with
        | .error fault =>
          let reason := if target.endsWith "/" && fault = .notFound then PathFault.notDirectory
            else fault
          complain s!"{c.tool}: cannot create regular file {quoted target}: {reason.text}"
        | .ok to_ =>
          if from_ = to_ then
            complain s!"{c.tool}: {quoted source} and {quoted target} are the same file"
          else
            match ← node to_ with
            | some .directory =>
              complain s!"{c.tool}: cannot overwrite directory {quoted target} with non-directory"
            | some (.file _) =>
              if !c.keepsExisting then
                change fun t => t.put to_ (.file content)
                if c.preserves then change fun t => t.withMode to_ mode
                told
            | some _ => told
            | none =>
              put to_ (.file content) mode
              told
where
  /-- The path that a name stands for, if it is a link. -/
  linkOf (name : Octets) : Working (Option String) := do
    match ← findItself name with
    | .ok (_, .link path) => return some path
    | _ => return none
  /-- A directory cannot be copied below itself. -/
  intoItself (source target : Octets) : Working Unit :=
    complain s!"{c.tool}: cannot copy a directory, {quoted source}, into itself, {quoted target}"
  /-- Copies what a directory holds. -/
  children (fuel : Nat) (source target : Octets) (p : TreePlace) : Working Unit := do
    for child in (← get).scene.machine.names p do
      copy c fuel (FileName.join source child) (FileName.join target child)

/-- Moves a file or a directory to a name. -/
def moveOne (keepsExisting verbose : Bool) (source target : Octets) : Working Unit := do
  match ← findItself (FileName.withoutSlashes source) with
  | .error fault => complain s!"mv: cannot stat {quoted source}: {fault.text}"
  | .ok (from_, node_) =>
    let refuse (reason : Octets) : Working Unit :=
      complain s!"mv: cannot move {quoted source} to {quoted target}: {reason}"
    let isDirectory : Bool := node_ = .directory
    match ← placeItself (if isDirectory then FileName.withoutSlashes target else target) with
    | .error fault =>
      refuse (if target.endsWith "/" && fault = .notFound then PathFault.notDirectory
        else fault).text
    | .ok to_ =>
      let go : Working Unit := do
        change fun t => t.moved from_ to_
        if verbose then say s!"renamed {quoted source} -> {quoted target}"
      if from_ = to_ then complain s!"mv: {quoted source} and {quoted target} are the same file"
      else if isDirectory && isInside from_ to_ then
        complain (s!"mv: cannot move {quoted source} to a subdirectory of itself, " ++
          quoted target)
      else
        match ← node to_ with
        | none => go
        | some .directory =>
          if !isDirectory then
            complain s!"mv: cannot overwrite directory {quoted target} with non-directory"
          else if isEmptyDirectory (← files) to_ then go
          else refuse "Directory not empty"
        | some _ =>
          if isDirectory then
            complain (s!"mv: cannot overwrite non-directory {quoted target} with directory " ++
              quoted source)
          else if !keepsExisting then go

/-- Runs on each source with its target: the last operand, or a file in it if it is a directory. -/
def overTargets (tool : Octets) (call : Call) (scene : Scene)
    (run : Octets → Octets → Working Unit) : Ran :=
  let into (directory : Octets) (sources : List Octets) : Ran :=
    Working.run (sources.forM fun s => run s (FileName.join directory (FileName.base s))) scene
  let checked (directory : Octets) (sources : List Octets) : Ran :=
    match scene.find directory with
    | .ok (_, .directory) => into directory sources
    | .ok _ => .complaint 1 s!"{tool}: target {quoted directory}: Not a directory"
    | .error fault => .complaint 1 s!"{tool}: target {quoted directory}: {fault.text}"
  match call.value? 't', call.operands with
  | _, [] => refused tool "missing file operand"
  | some directory, sources => checked directory sources
  | none, [a] => refused tool s!"missing destination file operand after {quoted a}"
  | none, [a, b] =>
    if scene.look? b = some .directory && !call.has 'T' then into b [a]
    else Working.run (run a b) scene
  | none, operands => checked (operands.getLastD "") operands.dropLast

/-- Copies files. -/
def cp : Tool :=
  let table : OptionTable :=
    { flags := "abdfHilLnpPrRsTuvx", valued := "tS"
      long := [⟨"archive", 'a', .never⟩, ⟨"force", 'f', .never⟩, ⟨"no-clobber", 'n', .never⟩,
        ⟨"recursive", 'r', .never⟩, ⟨"verbose", 'v', .never⟩, ⟨"update", 'u', .maybe⟩,
        ⟨"preserve", 'p', .maybe⟩, ⟨"target-directory", 't', .always⟩,
        ⟨"no-target-directory", 'T', .never⟩, ⟨"parents", 'w', .never⟩] }
  .withOptions "cp" 1 table fun call scene =>
    let c : Copying :=
      { recursive := call.has 'r' || call.has 'R' || call.has 'a'
        keepsExisting := call.has 'n', preserves := call.has 'p' || call.has 'a'
        keepsLinks := !call.has 'L' &&
          ["r", "R", "a", "P", "d"].any fun n => call.options.any (·.name = n)
        verbose := call.has 'v' }
    overTargets "cp" call scene (c.copy maxDepth)

/-- Moves files. -/
def mv : Tool :=
  let table : OptionTable :=
    { flags := "bfinTuv", valued := "tS"
      long := [⟨"force", 'f', .never⟩, ⟨"no-clobber", 'n', .never⟩, ⟨"verbose", 'v', .never⟩,
        ⟨"target-directory", 't', .always⟩, ⟨"no-target-directory", 'T', .never⟩,
        ⟨"update", 'u', .maybe⟩, ⟨"interactive", 'i', .never⟩] }
  .withOptions "mv" 1 table fun call scene =>
    overTargets "mv" call scene (moveOne (call.last? "fin" = some 'n') (call.has 'v'))

/-! ## Modes and contents -/

/-- The places below a directory. -/
def below (t : FileTree) (p : TreePlace) : List TreePlace :=
  (t.entries.map (·.1)).filter fun q => isInside p q && q != p

/-- What is said of a changed mode. -/
def modeReport (name : Octets) (old new : Nat) : Octets :=
  let text (mode : Nat) : Octets :=
    let digits := Mode.digits mode
    String.ofList (List.replicate (4 - digits.length) '0') ++ s!"{digits} ({Mode.letters mode})"
  if old = new then s!"mode of {quoted name} retained as {text old}"
  else s!"mode of {quoted name} changed from {text old} to {text new}"

/-- Changes the mode of a file, and of all below it if that is asked for. -/
def changeMode (call : Call) (f : Bool → Nat → Nat) (name : Octets) : Working Unit := do
  match ← find name with
  | .error fault =>
    if call.has 'f' then modify fun w => { w with status := 1 }
    else complain s!"chmod: cannot access {quoted name}: {fault.text}"
  | .ok (p, _) =>
    let t ← files
    for q in p :: if call.has 'R' then below t p else [] do
      let old := t.mode q
      let new := f (t.entry? q = some .directory) old
      change fun t => t.withMode q new
      if call.has 'v' || (call.has 'c' && old != new) then
        let rest := (q.drop p.length).map Octets.ofText
        say (modeReport (Text.joined "/" (name :: rest)) old new)

/-- Changes the modes of files. -/
def chmod : Tool := fun args scene =>
  let isMode (a : Octets) : Bool := match a.toList with
    | '-' :: c :: _ => "rwxXst".toList.contains c && (Mode.read? scene.umask a).isSome
    | _ => false
  let table : OptionTable :=
    { flags := "Rcfv"
      long := [⟨"recursive", 'R', .never⟩, ⟨"verbose", 'v', .never⟩, ⟨"changes", 'c', .never⟩,
        ⟨"quiet", 'f', .never⟩, ⟨"silent", 'f', .never⟩, ⟨"reference", 'r', .always⟩] }
  let args := match args.find? isMode with
    | some m => "--" :: m :: args.erase m
    | none => args
  Tool.withOptions "chmod" 1 table (fun call scene =>
    match call.operands with
    | [] => refused "chmod" "missing operand"
    | [m] => refused "chmod" s!"missing operand after {quoted m}"
    | m :: names =>
      match Mode.read? scene.umask m with
      | none => refused "chmod" s!"invalid mode: {quoted m}"
      | some f => Working.run (names.forM (changeMode call f)) scene) args scene

/-- Owners and groups that there are. -/
def isKnownOwner (s : Octets) : Bool :=
  Octets.isNumber s || ["", "root", "daemon", "nobody", "www-data", "nogroup"].contains s

/-- Gives files to an owner; all belong to the same one here. -/
def giveTo (tool noun : Octets) (wellSaid : Octets → Bool) : Tool :=
  .withOptions tool 1
    { flags := "RcfvhHLP"
      long := [⟨"recursive", 'R', .never⟩, ⟨"verbose", 'v', .never⟩, ⟨"changes", 'c', .never⟩,
        ⟨"quiet", 'f', .never⟩, ⟨"silent", 'f', .never⟩, ⟨"no-dereference", 'h', .never⟩,
        ⟨"reference", 'r', .always⟩] }
    fun call scene =>
      match call.operands with
      | [] => refused tool "missing operand"
      | [a] => refused tool s!"missing operand after {quoted a}"
      | owner :: names =>
        if wellSaid owner then
          Working.run (names.forM fun name => do
            match ← find name with
            | .error fault => complain s!"{tool}: cannot access {quoted name}: {fault.text}"
            | .ok _ => pure ()) scene
        else .complaint 1 s!"{tool}: invalid {noun}: {quoted owner}"

/-- Changes the owners of files. -/
def chown : Tool := giveTo "chown" "user" fun s =>
  (Text.splitText [':'] s.toList).all fun cs => isKnownOwner (String.ofList cs)

/-- Changes the groups of files. -/
def chgrp : Tool := giveTo "chgrp" "group" isKnownOwner

/-- Makes directories, or copies files with a mode. -/
def install : Tool :=
  .withOptions "install" 1
    { flags := "dDcpvsCT", valued := "mogt"
      long := [⟨"directory", 'd', .never⟩, ⟨"mode", 'm', .always⟩, ⟨"owner", 'o', .always⟩,
        ⟨"group", 'g', .always⟩, ⟨"verbose", 'v', .never⟩, ⟨"target-directory", 't', .always⟩,
        ⟨"no-target-directory", 'T', .never⟩] }
    fun call scene =>
      match (call.value? 'm').map fun m => (m, Mode.read? 0 m) with
      | some (m, none) => .complaint 1 s!"install: invalid mode {quoted m}"
      | mode =>
        let bits := ((mode.bind (·.2)).map fun f => f false 0).getD 0o755
        if call.has 'd' then
          if call.operands.isEmpty then refused "install" "missing file operand"
          else Working.run (call.operands.forM fun name => makeWay (some bits) false name) scene
        else
          overTargets "install" call scene fun source target => do
            if call.has 'D' then makeWay none false (FileName.directory target)
            ({ tool := "install", verbose := call.has 'v' } : Copying).copy maxDepth source target
            match ← place target with
            | .ok p => change fun t => if (t.entry? p).isSome then t.withMode p bits else t
            | .error _ => pure ()

/-- Writes a text to a name, behind what is there if that is asked for. -/
def writeTo (appends : Bool) (text : Octets) (name : Octets) : Working (Option PathFault) := do
  match ← place name with
  | .error fault =>
    return some (if name.endsWith "/" && fault = .notFound then .isDirectory else fault)
  | .ok p =>
    let bytes := Octets.toBytes text
    match ← node p with
    | some .directory => return some .isDirectory
    | some (.file old) =>
      change fun t => t.put p (.file (if appends then old ++ bytes else bytes))
      return none
    | some _ =>
      let descriptor := if p.getLast? = some "stdout" || p.getLast? = some "1" then 1 else 2
      if p.getLast? != some "null" then
        modify fun w => { w with printed := (descriptor, text) :: w.printed }
      return none
    | none =>
      put p (.file bytes) (← newMode 0o666)
      return none

/-- Prints its input and writes it to files. -/
def tee : Tool :=
  let table : OptionTable :=
    { flags := "aip"
      long := [⟨"append", 'a', .never⟩, ⟨"ignore-interrupts", 'i', .never⟩] }
  .withOptions "tee" 1 table fun call scene =>
    let text := String.ofList scene.input
    let r := Working.run (do
      for name in call.operands do
        match ← writeTo (call.has 'a') text name with
        | some fault => complain s!"tee: {shown name}: {fault.text}"
        | none => pure ()) scene
    ((Ran.output text).then_ r).takingAll

/-! ## Links -/

/-- Makes a name stand for another path, or for a copy of what is there. -/
def linkOne (symbolic force verbose : Bool) (source target : Octets) : Working Unit := do
  let kind := if symbolic then "symbolic" else "hard"
  let refuse (reason : Octets) : Working Unit :=
    complain s!"ln: failed to create {kind} link {quoted target}: {reason}"
  let link (to_ : TreePlace) : Working Unit := do
    let arrow := if symbolic then "->" else "=>"
    if symbolic then change fun t => t.withLink to_ (Octets.toText source)
    else
      match ← find source with
      | .ok (from_, .file bytes) =>
        let mode := (← files).mode from_
        change fun t => ((t.remove to_).put to_ (.file bytes)).withMode to_ mode
      | _ => pure ()
    if verbose then say s!"{quoted target} {arrow} {quoted source}"
  let checked : Working Bool := do
    if symbolic then return true
    else
      match ← find source with
      | .error fault =>
        complain s!"ln: failed to access {quoted source}: {fault.text}"
        return false
      | .ok (_, .directory) =>
        complain s!"ln: {source}: hard link not allowed for directory"
        return false
      | .ok _ => return true
  if ← checked then
    match ← placeItself target with
    | .error fault => refuse fault.text
    | .ok to_ =>
      match ← node to_ with
      | none => link to_
      | some .directory => refuse "File exists"
      | some _ => if force then link to_ else refuse "File exists"

/-- Makes links. -/
def ln : Tool :=
  let table : OptionTable :=
    { flags := "bfinrsTvLP", valued := "tS"
      long := [⟨"symbolic", 's', .never⟩, ⟨"force", 'f', .never⟩, ⟨"verbose", 'v', .never⟩,
        ⟨"no-dereference", 'n', .never⟩, ⟨"target-directory", 't', .always⟩,
        ⟨"no-target-directory", 'T', .never⟩, ⟨"relative", 'r', .never⟩] }
  .withOptions "ln" 1 table fun call scene =>
    let link := linkOne (call.has 's') (call.has 'f') (call.has 'v')
    let isLink (name : Octets) : Bool := match scene.findItself name with
      | .ok (_, .link _) => true
      | _ => false
    match call.value? 't', call.operands with
    | none, [a] =>
      Working.run (link a (FileName.base a)) scene
    | none, [a, b] =>
      if call.has 'n' && isLink b then Working.run (link a b) scene
      else overTargets "ln" call scene link
    | _, _ => overTargets "ln" call scene link

/-- Removes a file by its name. -/
def unlink : Tool :=
  .withOptions "unlink" 1 {} fun call scene =>
    match call.operands with
    | [] => refused "unlink" "missing operand"
    | [name] =>
      Working.run (do
        let refuse (reason : Octets) : Working Unit :=
          complain s!"unlink: cannot unlink {quoted name}: {reason}"
        match ← findItself name with
        | .error fault => refuse fault.text
        | .ok (_, .directory) => refuse "Is a directory"
        | .ok (p, _) => change fun t => t.remove p) scene
    | _ :: extra :: _ => refused "unlink" s!"extra operand {quoted extra}"

/-- Sets the sizes of files. -/
def truncate : Tool :=
  let table : OptionTable :=
    { flags := "co", valued := "rs"
      long := [⟨"size", 's', .always⟩, ⟨"no-create", 'c', .never⟩] }
  .withOptions "truncate" 1 table fun call scene =>
    match call.value? 's' with
    | none => refused "truncate" "you must specify either '--size' or '--reference'"
    | some size =>
      match Amount.read? size, call.operands with
      | none, _ => .complaint 1 s!"truncate: Invalid number: {quoted size}"
      | _, [] => refused "truncate" "missing file operand"
      | some n, names =>
        Working.run (names.forM fun name => do
          match ← place name with
          | .error fault =>
            complain s!"truncate: cannot open {quoted name} for writing: {fault.text}"
          | .ok p =>
            let old : Utf8.Bytes := match ← node p with
              | some (.file bytes) => bytes
              | _ => []
            let length := if n.positive then old.length + n.count
              else if n.negative then old.length - n.count else n.count
            let content := old.take length ++ List.replicate (length - old.length) 0
            if (← node p).isSome then change fun t => t.put p (.file content)
            else if !call.has 'c' then put p (.file content) (← newMode 0o666)) scene

/-! ## Names for new files -/

/-- The name of a new file by a template; a number that has not been used takes the place of its
last letters. -/
def newName (taken : Octets → Bool) (template : List Char) : Octets :=
  let tail := (template.reverse.takeWhile (· == 'X')).length
  let head := template.take (template.length - tail)
  let name (n : Nat) : Octets :=
    let digits := Nat.toDigits 26 (n + 1)
    let letters := (List.replicate (tail - digits.length) 'q') ++ digits
    String.ofList (head ++ letters.take tail)
  ((List.range 1000).find? fun n => !taken (name n)).elim (name 0) name

/-- Makes a file or a directory with a new name. -/
def mktemp : Tool :=
  let table : OptionTable :=
    { flags := "dqut", valued := "p"
      long := [⟨"directory", 'd', .never⟩, ⟨"quiet", 'q', .never⟩, ⟨"dry-run", 'u', .never⟩,
        ⟨"tmpdir", 'P', .maybe⟩, ⟨"suffix", 'S', .always⟩] }
  .withOptions "mktemp" 1 table fun call scene =>
    let template := call.operands.headD "tmp.XXXXXXXXXX"
    let xs := (template.toList.reverse.takeWhile (· == 'X')).length
    if xs < 3 then .complaint 1 s!"mktemp: too few X's in template {quoted template}"
    else
      let shared := ((scene.environment.find? (·.1 = "TMPDIR")).map (·.2)).getD "/tmp"
      let directory : Option Octets :=
        if call.has 'p' then call.value? 'p'
        else if call.has 'P' then some ((call.value? 'P').getD shared)
        else if call.operands.isEmpty || call.has 't' then some shared
        else none
      let path (name : Octets) : Octets := match directory with
        | some d => FileName.join d name
        | none => name
      let name := path (newName (fun n => (scene.look? (path n)).isSome) template.toList)
      Working.run (do
        let p ← place name
        match p with
        | .error fault =>
          if directory = some "/tmp" then
            change fun t => t.withDirectory ["tmp"]
            make call name
          else if !call.has 'q' then
            let what := if call.has 'd' then "directory" else "file"
            complain (s!"mktemp: failed to create {what} via template " ++
              s!"{quoted (path template)}: {fault.text}")
        | .ok _ => make call name) scene
where
  /-- Makes the file or the directory. -/
  make (call : Call) (name : Octets) : Working Unit := do
    match ← place name with
    | .error _ => return ()
    | .ok p =>
      if !call.has 'u' then
        if call.has 'd' then put p .directory 0o700 else put p (.file []) 0o600
      say name

end Mender.FileChanges
