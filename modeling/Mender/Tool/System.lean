import Mender.Tool.Basic

/-!
# Facts about the system

Tools that say who runs them, on what system and with which variables.
-/

namespace Mender

namespace Facts

/-- The names of the system: the letter that asks for a name, and the name. -/
def names : List (Char × Octets) :=
  [('s', "Linux"), ('n', "localhost"), ('r', "6.1.0"), ('v', "#1 SMP"), ('m', "x86_64"),
    ('p', "unknown"), ('i', "unknown"), ('o', "GNU/Linux")]

/-- Prints names of the system. -/
def uname : Tool :=
  .withOptions "uname" 1
    { flags := "asnrvmpio"
      long := [⟨"all", 'a', .never⟩, ⟨"kernel-name", 's', .never⟩, ⟨"nodename", 'n', .never⟩,
        ⟨"kernel-release", 'r', .never⟩, ⟨"kernel-version", 'v', .never⟩, ⟨"machine", 'm', .never⟩,
        ⟨"processor", 'p', .never⟩, ⟨"hardware-platform", 'i', .never⟩,
        ⟨"operating-system", 'o', .never⟩] }
    fun call _ =>
      match call.operands with
      | a :: _ => .complaint 1 (s!"uname: extra operand {Naming.quoted a}\n" ++
          "Try 'uname --help' for more information.")
      | [] =>
        let chosen := names.filter fun (c, name) =>
          if call.has 'a' then name != "unknown"
          else if call.options.isEmpty then c = 's'
          else call.has c
        .output (Text.joined " " (chosen.map (·.2)) ++ "\n")

/-- Prints the kind of machine. -/
def arch : Tool := .withOptions "arch" 1 {} fun _ _ => .output "x86_64\n"

/-- Prints who runs it. -/
def whoami : Tool := .withOptions "whoami" 1 {} fun call _ =>
  match call.operands with
  | [] => .output "root\n"
  | a :: _ => .complaint 1 (s!"whoami: extra operand {Naming.quoted a}\n" ++
      "Try 'whoami --help' for more information.")

/-- Prints who runs it, by numbers and names. -/
def id : Tool :=
  .withOptions "id" 1
    { flags := "agGnruz"
      long := [⟨"user", 'u', .never⟩, ⟨"group", 'g', .never⟩, ⟨"groups", 'G', .never⟩,
        ⟨"name", 'n', .never⟩, ⟨"real", 'r', .never⟩] }
    fun call _ =>
      match call.operands.filter fun a => a != "root" && a != "0" with
      | a :: _ => .complaint 1 s!"id: {Naming.quoted a}: no such user"
      | [] =>
        if call.has 'u' || call.has 'g' || call.has 'G' then
          .output (if call.has 'n' then "root\n" else "0\n")
        else if call.has 'n' || call.has 'r' then
          .complaint 1 "id: cannot print only names or real IDs in default format"
        else .output "uid=0(root) gid=0(root) groups=0(root)\n"

/-- Prints the groups of who runs it. -/
def groups : Tool := .withOptions "groups" 1 {} fun _ _ => .output "root\n"

/-- Says that nobody is at a keyboard. -/
def tty : Tool :=
  .withOptions "tty" 2 { flags := "s", long := [⟨"silent", 's', .never⟩, ⟨"quiet", 's', .never⟩] }
    fun call _ => { Ran.output (if call.has 's' then "" else "not a tty\n") with status := 1 }

/-- Prints the variables of a tool. -/
def printenv : Tool :=
  .withOptions "printenv" 2 { flags := "0", long := [⟨"null", '0', .never⟩], inOrder := true }
    fun call scene =>
      let stop := if call.has '0' then "\x00" else "\n"
      if call.operands.isEmpty then
        .output (String.join (scene.environment.map fun (n, v) => n ++ "=" ++ v ++ stop))
      else
        let values := call.operands.map fun n =>
          (scene.environment.find? (·.1 = n)).map (·.2)
        { Ran.output (String.join (values.filterMap fun v => v.map (· ++ stop))) with
          status := if values.all Option.isSome then 0 else 1 }

/-- Prints how many processors there are. -/
def nproc : Tool :=
  .withOptions "nproc" 1 { long := [⟨"all", 'a', .never⟩, ⟨"ignore", 'i', .always⟩] }
    fun _ _ => .output "1\n"

/-- Prints the name of the machine. -/
def hostname : Tool :=
  .withOptions "hostname" 1 { flags := "sfid", long := [⟨"short", 's', .never⟩] }
    fun _ _ => .output "localhost\n"

/-- Says that nobody has signed on. -/
def logname : Tool := .withOptions "logname" 1 {} fun _ _ =>
  .complaint 1 "logname: no login name"

/-- Does nothing, since nothing waits to be written. -/
def sync : Tool := .withOptions "sync" 1 { flags := "df" } fun call scene =>
  Ran.all (call.operands.map fun name =>
    match scene.find name with
    | .ok _ => {}
    | .error fault => .complaint 1 s!"sync: error opening {Naming.quoted name}: {fault.text}")

/-- The prime factors of a number, the smallest first, when there are none below a divisor. -/
def factorsFrom : Nat → Nat → Nat → List Nat
  | 0, _, n => if 1 < n then [n] else []
  | fuel + 1, d, n =>
    if n < d * d then (if 1 < n then [n] else [])
    else if n % d = 0 then d :: factorsFrom fuel d (n / d)
    else factorsFrom fuel (if d = 2 then 3 else d + 2) n

/-- Prints the prime factors of numbers. -/
def factor : Tool := .withOptions "factor" 1 {} fun call scene =>
  let words := if call.operands.isEmpty then
      (Octets.toLines (String.ofList (scene.input.map fun c => if Octets.isSpace c then '\n' else c)
        )).filter (· != "")
    else call.operands
  let all := Ran.all (words.map fun a =>
    let digits := if a.startsWith "+" then String.ofList (a.toList.drop 1) else a
    match Amount.digits? digits with
    | some n =>
      let factors := factorsFrom (n.log2 * 4 + 1000000) 2 n
      .output (Text.joined " " (s!"{n}:" :: factors.map toString) ++ "\n")
    | none => .complaint 1 s!"factor: {Naming.quoted a} is not a valid positive integer")
  if call.operands.isEmpty then all.takingAll else all

end Facts

end Mender
