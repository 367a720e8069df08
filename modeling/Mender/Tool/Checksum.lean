import Mender.Learning.Signature
import Mender.Tool.Basic

/-!
# Sums over files

Sums by which files are told apart, and bytes written in letters that every line can carry.
-/

namespace Mender.Checksum

/-- Bytes of a text. -/
def bytesOf (s : Octets) : List UInt8 :=
  Octets.toBytes s

/-- Turns a word to the left. -/
def turnLeft (x n : UInt32) : UInt32 :=
  (x <<< n) ||| (x >>> (32 - n))

/-! ## Four words of state -/

/-- The state of a sum of four words. -/
structure Quad where
  a : UInt32
  b : UInt32
  c : UInt32
  d : UInt32

/-- The constants of the sixty-four steps: the fractions of sines. -/
def sines : List UInt32 :=
  [0xd76aa478, 0xe8c7b756, 0x242070db, 0xc1bdceee, 0xf57c0faf, 0x4787c62a, 0xa8304613, 0xfd469501,
   0x698098d8, 0x8b44f7af, 0xffff5bb1, 0x895cd7be, 0x6b901122, 0xfd987193, 0xa679438e, 0x49b40821,
   0xf61e2562, 0xc040b340, 0x265e5a51, 0xe9b6c7aa, 0xd62f105d, 0x02441453, 0xd8a1e681, 0xe7d3fbc8,
   0x21e1cde6, 0xc33707d6, 0xf4d50d87, 0x455a14ed, 0xa9e3e905, 0xfcefa3f8, 0x676f02d9, 0x8d2a4c8a,
   0xfffa3942, 0x8771f681, 0x6d9d6122, 0xfde5380c, 0xa4beea44, 0x4bdecfa9, 0xf6bb4b60, 0xbebfbc70,
   0x289b7ec6, 0xeaa127fa, 0xd4ef3085, 0x04881d05, 0xd9d4d039, 0xe6db99e5, 0x1fa27cf8, 0xc4ac5665,
   0xf4292244, 0x432aff97, 0xab9423a7, 0xfc93a039, 0x655b59c3, 0x8f0ccc92, 0xffeff47d, 0x85845dd1,
   0x6fa87e4f, 0xfe2ce6e0, 0xa3014314, 0x4e0811a1, 0xf7537e82, 0xbd3af235, 0x2ad7d2bb, 0xeb86d391]

/-- How far each step turns, four amounts for each of the four rounds. -/
def turns : List UInt32 :=
  [7, 12, 17, 22, 5, 9, 14, 20, 4, 11, 16, 23, 6, 10, 15, 21]

/-- A word from four bytes, the least significant first. -/
def lowWord (bytes : List UInt8) : UInt32 :=
  bytes.foldr (fun b w => (w <<< 8) ||| b.toUInt32) 0

/-- One step. -/
def quadStep (words : Array UInt32) (s : Quad) (i : Nat) (constant : UInt32) : Quad :=
  let (mixed, g) :=
    if i < 16 then ((s.b &&& s.c) ||| ((~~~ s.b) &&& s.d), i)
    else if i < 32 then ((s.d &&& s.b) ||| ((~~~ s.d) &&& s.c), (5 * i + 1) % 16)
    else if i < 48 then (s.b ^^^ s.c ^^^ s.d, (3 * i + 5) % 16)
    else (s.c ^^^ (s.b ||| (~~~ s.d)), 7 * i % 16)
  let sum := mixed + s.a + constant + words.getD g 0
  ⟨s.d, s.b + turnLeft sum (turns.getD (4 * (i / 16) + i % 4) 0), s.b, s.c⟩

/-- Takes one block into the state. -/
def quadBlock (s : Quad) (bytes : List UInt8) : Quad :=
  let words := ((Digest.pieces 4 16 bytes).map lowWord).toArray
  let t := ((List.range 64).zip sines).foldl (fun t (i, k) => quadStep words t i k) s
  ⟨s.a + t.a, s.b + t.b, s.c + t.c, s.d + t.d⟩

/-- Fills bytes up to whole blocks, with the length in bits at the end, the least significant byte
first. -/
def lowPadded (bytes : List UInt8) : List UInt8 :=
  let n := bytes.length
  bytes ++ 0x80 :: List.replicate ((119 - n % 64) % 64) 0 ++ (Digest.bytesOf 8 (8 * n)).reverse

/-- The sum of 128 bits. -/
def md5 (bytes : List UInt8) : List UInt8 :=
  let whole := lowPadded bytes
  let s := (Digest.pieces 64 whole.length whole).foldl quadBlock
    ⟨0x67452301, 0xefcdab89, 0x98badcfe, 0x10325476⟩
  [s.a, s.b, s.c, s.d].flatMap fun w => (Digest.bytesOf 4 w.toNat).reverse

/-! ## Five words of state -/

/-- The state of a sum of five words. -/
structure Five extends Quad where
  e : UInt32

/-- Adds further words to a schedule held the latest first. -/
def extendFive : Nat → List UInt32 → List UInt32
  | 0, latest => latest
  | n + 1, latest =>
    let word (back : Nat) : UInt32 := latest.getD (back - 1) 0
    extendFive n (turnLeft (word 3 ^^^ word 8 ^^^ word 14 ^^^ word 16) 1 :: latest)

/-- One step. -/
def fiveStep (s : Five) (i : Nat) (word : UInt32) : Five :=
  let (mixed, constant) : UInt32 × UInt32 :=
    if i < 20 then ((s.b &&& s.c) ||| ((~~~ s.b) &&& s.d), 0x5a827999)
    else if i < 40 then (s.b ^^^ s.c ^^^ s.d, 0x6ed9eba1)
    else if i < 60 then ((s.b &&& s.c) ||| (s.b &&& s.d) ||| (s.c &&& s.d), 0x8f1bbcdc)
    else (s.b ^^^ s.c ^^^ s.d, 0xca62c1d6)
  ⟨⟨turnLeft s.a 5 + mixed + s.e + constant + word, s.a, turnLeft s.b 30, s.c⟩, s.d⟩

/-- Takes one block into the state. -/
def fiveBlock (s : Five) (bytes : List UInt8) : Five :=
  let words := (extendFive 64 ((Digest.pieces 4 16 bytes).map Digest.wordOf).reverse).reverse
  let t := ((List.range 80).zip words).foldl (fun t (i, w) => fiveStep t i w) s
  ⟨⟨s.a + t.a, s.b + t.b, s.c + t.c, s.d + t.d⟩, s.e + t.e⟩

/-- The sum of 160 bits. -/
def sha1 (bytes : List UInt8) : List UInt8 :=
  let whole := Digest.padded bytes
  let s := (Digest.pieces 64 whole.length whole).foldl fiveBlock
    ⟨⟨0x67452301, 0xefcdab89, 0x98badcfe, 0x10325476⟩, 0xc3d2e1f0⟩
  [s.a, s.b, s.c, s.d, s.e].flatMap fun w => Digest.bytesOf 4 w.toNat

/-! ## Remainders -/

/-- One bit of a remainder. -/
def remainderBit (n : UInt32) : UInt32 :=
  if n &&& 0x80000000 = 0 then n <<< 1 else (n <<< 1) ^^^ 0x04c11db7

/-- Takes a byte into a remainder. -/
def remainderStep (n : UInt32) (b : UInt8) : UInt32 :=
  (List.range 8).foldl (fun n _ => remainderBit n) (n ^^^ (b.toUInt32 <<< 24))

/-- The bytes of a length, the least significant first, as many as it needs. -/
def lengthBytes : Nat → Nat → List UInt8
  | 0, _ => []
  | fuel + 1, n => if n = 0 then [] else UInt8.ofNat n :: lengthBytes fuel (n / 256)

/-- The remainder of bytes and their length. -/
def remainder (bytes : List UInt8) : Nat :=
  (~~~ ((bytes ++ lengthBytes 8 bytes.length).foldl remainderStep 0)).toNat

/-- Prints remainders and lengths of files. -/
def cksum : Tool := .withOptions "cksum" 1 {} fun call scene =>
  scene.overNamedFiles call.operands (Ran.unreadable "cksum" 1) fun name text =>
    let shown : List Octets := if call.operands.isEmpty then [] else [name]
    let counts := [toString (remainder (bytesOf text)), toString text.length]
    .output (Text.joined " " (counts ++ shown) ++ "\n")

/-! ## Lists of sums -/

/-- The options of tools that print sums. -/
def table : OptionTable :=
  { flags := "bctqw"
    long := [⟨"binary", 'b', .never⟩, ⟨"check", 'c', .never⟩, ⟨"text", 't', .never⟩,
      ⟨"quiet", 'q', .never⟩, ⟨"status", 's', .never⟩, ⟨"warn", 'w', .never⟩] }

/-- A line of a list: a sum and the name of a file. -/
def readLine? (digits : Nat) (line : Octets) : Option (Octets × Octets) :=
  let cs := line.toList
  let sum := cs.take digits
  match cs.drop digits with
  | ' ' :: mark :: name =>
    if sum.length = digits && sum.all (Shell.Numeral.isDigit 16) && !name.isEmpty &&
        (mark = ' ' || mark = '*') then
      some (String.ofList (sum.map Char.toLower), String.ofList name)
    else none
  | _ => none

/-- A count with a noun. -/
def counted (n : Nat) (one many : Octets) : Octets :=
  if n = 1 then s!"1 {one}" else s!"{n} {many}"

/-- Checks the files of a list against their sums. -/
def checkList (tool : Octets) (sum : Octets → Octets) (call : Call) (scene : Scene)
    (digits : Nat) (name text : Octets) : Ran :=
  let entries := (Octets.toLines text).filterMap (readLine? digits)
  let results := entries.map fun (expected, file) =>
    match scene.content file with
    | .ok content =>
      if sum content = expected then
        (0, Ran.output (if call.has 'q' || call.has 's' then "" else s!"{file}: OK\n"))
      else (1, (Ran.output (if call.has 's' then "" else s!"{file}: FAILED\n")).withStatus 1)
    | .error fault =>
      (2, (Ran.unreadable tool 1 file fault).then_
        (.output (if call.has 's' then "" else s!"{file}: FAILED open or read\n")))
  let failed := results.countP (·.1 = 1)
  let unread := results.countP (·.1 = 2)
  if entries.isEmpty then
    .complaint 1 s!"{tool}: {Naming.shown name}: no properly formatted checksum lines found"
  else
    let warnings : List Octets :=
      (if unread = 0 then [] else [s!"{tool}: WARNING: " ++
        counted unread "listed file could not be read" "listed files could not be read"]) ++
      if failed = 0 then [] else [s!"{tool}: WARNING: " ++
        counted failed "computed checksum did NOT match" "computed checksums did NOT match"]
    (Ran.all (results.map (·.2))).then_
      { printed := if call.has 's' then [] else [(2, Octets.lines warnings)] }

/-- Prints or checks sums of files. -/
def sums (tool : Octets) (sum : List UInt8 → List UInt8) : Tool :=
  .withOptions tool 1 table fun call scene =>
    let written (text : Octets) : Octets := String.ofList (Digest.hex (sum (bytesOf text)))
    let mark := if call.has 'b' then " *" else "  "
    scene.overNamedFiles call.operands (Ran.unreadable tool 1) fun name text =>
      if call.has 'c' then checkList tool written call scene (2 * (sum []).length) name text
      else .output (written text ++ mark ++ name ++ "\n")

/-- Prints sums of 128 bits. -/
def md5sum : Tool := sums "md5sum" md5

/-- Prints sums of 160 bits. -/
def sha1sum : Tool := sums "sha1sum" sha1

/-- Prints sums of 256 bits. -/
def sha256sum : Tool := sums "sha256sum" Digest.sha256

/-! ## Bytes in letters -/

/-- The letters, each for six bits. -/
def letters : List Char :=
  "ABCDEFGHIJKLMNOPQRSTUVWXYZabcdefghijklmnopqrstuvwxyz0123456789+/".toList

/-- The letter for six bits. -/
def letter (n : Nat) : Char :=
  letters.getD (n % 64) 'A'

/-- Writes characters in letters, three by four. -/
def encode : List Char → List Char
  | [] => []
  | [a] => [letter (a.toNat / 4), letter (a.toNat * 16), '=', '=']
  | [a, b] =>
    let n := a.toNat * 256 + b.toNat
    [letter (n / 1024), letter (n / 16), letter (n * 4), '=']
  | a :: b :: c :: rest =>
    let n := a.toNat * 65536 + b.toNat * 256 + c.toNat
    letter (n / 262144) :: letter (n / 4096) :: letter (n / 64) :: letter n :: encode rest

/-- The bytes that four letters stand for, as far as they can be read, and whether that is all;
there are fewer when the last are signs of equality. -/
def decodeFour (a b : Char) (rest : List Char) : List Char × Bool :=
  match letters.idxOf? a, letters.idxOf? b with
  | some x, some y =>
    let first := Char.ofNat ((x * 4 + y / 16) % 256)
    match rest with
    | ['=', '='] => ([first], true)
    | c :: rest =>
      match letters.idxOf? c with
      | none => ([first], false)
      | some z =>
        let second := Char.ofNat ((y * 16 + z / 4) % 256)
        match rest with
        | ['='] => ([first, second], true)
        | [d] =>
          match letters.idxOf? d with
          | some w => ([first, second, Char.ofNat ((z * 64 + w) % 256)], true)
          | none => ([first, second], false)
        | _ => ([first, second], false)
    | [] => ([first], false)
  | _, _ => ([], false)

/-- Reads bytes that are written in letters; also tells whether that could be done to the end. -/
def decode : List Char → List Char × Bool
  | [] => ([], true)
  | a :: b :: c :: d :: rest =>
    match decodeFour a b [c, d] with
    | (cs, true) =>
      let (more, complete) := decode rest
      (cs ++ more, complete)
    | partly => partly
  | a :: b :: rest => decodeFour a b rest
  | _ => ([], false)

/-- Breaks characters into lines of a width. -/
def broken (width : Nat) : Nat → List Char → List Octets
  | 0, _ => []
  | _, [] => []
  | fuel + 1, cs =>
    if width = 0 then [String.ofList cs]
    else (String.ofList (cs.take width) ++ "\n") :: broken width fuel (cs.drop width)

/-- Writes bytes in letters, or reads them. -/
def base64 : Tool :=
  .withOptions "base64" 1
    { flags := "di", valued := "w"
      long := [⟨"decode", 'd', .never⟩, ⟨"ignore-garbage", 'i', .never⟩, ⟨"wrap", 'w', .always⟩] }
    fun call scene =>
      match call.operands, (call.value? 'w').map Amount.digits? with
      | _, some none =>
        .complaint 1 ("base64: invalid wrap size: " ++ Naming.quoted ((call.value? 'w').getD ""))
      | _ :: a :: _, _ => .complaint 1 (s!"base64: extra operand {Naming.quoted a}\n" ++
          "Try 'base64 --help' for more information.")
      | names, width =>
        scene.overFiles names (Ran.unreadable "base64" 1) fun text =>
          let cs := text.toList
          if call.has 'd' then
            let kept := cs.filter fun c =>
              if call.has 'i' then letters.contains c || c = '=' else c != '\n'
            let (bytes, complete) := decode kept
            { printed := [(1, String.ofList bytes)] ++
                (if complete then [] else [(2, "base64: invalid input\n")])
              status := if complete then 0 else 1 }
          else .output (String.join (broken ((width.join).getD 76) cs.length.succ (encode cs)))

end Mender.Checksum
