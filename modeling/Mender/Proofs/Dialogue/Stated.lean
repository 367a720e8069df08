import Mender.Dialogue.Prompt
import Mender.Proofs.Dialogue.Fences
import Mender.Proofs.Dialogue.Reply
import Mender.Proofs.Host.Site

/-!
# Fixes as they are stated

A fix that is stated in the form that a model is told to answer in is read as it is stated:
`FixReply.parse_stated`. Tags do not straddle what they enclose (`Text.Bracketed`), so each tag of
the form is found where it stands, and its body ends at its own closing tag, as long as no text in
the form holds a tag (`FixReply.tag_of_listing`).
-/

namespace Mender

/-! ## Numerals -/

theorem Text.digit_value_of_digit {c : Char} (h : c.isDigit = true) :
    digitValue? c = some (c.toNat - '0'.toNat) := by
  have hrange : 48 ≤ c.toNat ∧ c.toNat ≤ 57 := by
    simp only [Char.isDigit, Bool.and_eq_true, decide_eq_true_eq, ge_iff_le,
      UInt32.le_iff_toNat_le] at h
    simp only [Char.toNat, Char.reduceVal, UInt32.reduceToNat] at *
    omega
  have hzero : '0'.toNat = 48 := rfl
  rw [digitValue?, decimalRanges, List.find?_cons_of_pos (by simpa using hrange), Option.map_some,
    Nat.mod_eq_of_lt (by omega), hzero]

/-- A numeral is a single run of digits. -/
theorem Text.digit_run_of_digits {cs : List Char} (h : ∀ c ∈ cs, c.isDigit = true)
    (afterDigit : Bool) : digitRun afterDigit cs = (cs.map fun c => c.toNat - '0'.toNat, []) := by
  induction cs generalizing afterDigit with
  | nil => rfl
  | cons c cs ih =>
      obtain ⟨hc, hcs⟩ := List.forall_mem_cons.mp h
      simp only [digitRun, digit_value_of_digit hc, ih hcs, List.map_cons]

namespace Integer

/-- A decimal numeral of ordinary size writes a number. -/
structure Writes (numeral : List Char) (n : Nat) : Prop where
  some : numeral ≠ []
  digits : ∀ c ∈ numeral, c.isDigit = true
  short : numeral.length ≤ maxDigits
  value : Nat.ofDigitChars 10 numeral 0 = n

variable {numeral : List Char} {n : Nat}

theorem Writes.digit_like (h : Writes numeral n) : ∀ c ∈ numeral, Text.isDigitLike c = true := by
  intro c hc
  simp [Text.isDigitLike, Text.isDecimal, Text.digit_value_of_digit (h.digits c hc)]

/-- The number that a numeral writes is read. -/
theorem Writes.read_eq (h : Writes numeral n) : read (String.ofList numeral) = .ok (n : Int) := by
  have hvalue : Text.ofDigits (numeral.map fun c => c.toNat - '0'.toNat) = n := by
    rw [Text.ofDigits, List.foldl_map, ← h.value, Nat.ofDigitChars_eq_foldl]
  have hmagnitude : magnitude (String.ofList numeral) numeral = .ok n := by
    have hsome : (numeral.map fun c => c.toNat - '0'.toNat).isEmpty = false := by
      simpa using h.some
    have hshort := Nat.not_lt.mpr h.short
    simp only [magnitude, Text.digit_run_of_digits h.digits, hvalue, hsome, List.length_map,
      List.head?_nil, List.isEmpty_nil, reduceCtorEq, decide_false, Bool.or_false,
      Bool.false_eq_true, if_false, if_true, if_neg hshort]
  rw [read_of_digit_like h.digit_like, hmagnitude]
  rfl

end Integer

namespace FixReply

open Text (Bracketed)

/-! ## Tags -/

/-- A name of tags: it has no character that marks are made of. -/
def IsName (name : String) : Prop :=
  ∀ c ∈ name.toList, c ≠ '<' ∧ c ≠ '>' ∧ c ≠ '/'

instance (name : String) : Decidable (IsName name) :=
  List.decidableBAll (fun c => c ≠ '<' ∧ c ≠ '>' ∧ c ≠ '/') name.toList

section Names

variable {name other : String}

theorem bracketed_open (h : IsName name) : Bracketed (openTag name) :=
  .of_inner fun c hc => ⟨(h c hc).1, (h c hc).2.1⟩

theorem bracketed_close (h : IsName name) : Bracketed (closeTag name) := by
  have hinner : ∀ c ∈ '/' :: name.toList, c ≠ '<' ∧ c ≠ '>' :=
    List.forall_mem_cons.mpr ⟨by decide, fun c hc => ⟨(h c hc).1, (h c hc).2.1⟩⟩
  exact .of_inner hinner

theorem open_tag_inj (h : openTag name = openTag other) : name = other :=
  String.toList_inj.mp (by simpa [openTag] using h)

theorem close_tag_inj (h : closeTag name = closeTag other) : name = other :=
  String.toList_inj.mp (by simpa [closeTag] using h)

theorem open_tag_ne_close_tag (h : IsName name) : openTag name ≠ closeTag other := by
  intro hsame
  cases hname : name.toList with
  | nil => simp [openTag, closeTag, hname] at hsame
  | cons c cs =>
      have hc := (h c (by simp [hname])).2.2
      simp [openTag, closeTag, hname, hc] at hsame

end Names

/-- What stands between two bracketed marks is found, if the opening one does not occur before it
and the closing one not in it. -/
theorem between_of_bracketed {opening closing before body : List Char}
    (hopening : Bracketed opening) (hclosing : Bracketed closing)
    (hbefore : ¬opening <:+: before) (hbody : ¬closing <:+: body) (rest : List Char) :
    between? opening closing (before ++ (opening ++ (body ++ (closing ++ rest)))) = some body := by
  rw [between?, hopening.find_text hbefore, Option.bind_some]
  dsimp only
  rw [← List.append_assoc before, List.drop_left' List.length_append, hclosing.find_text hbody,
    Option.map_some, List.take_left]

/-- A body between the tags of a name. -/
def tagged (name : String) (body : List Char) : List Char :=
  openTag name ++ (body ++ closeTag name)

/-- Tags below one another. -/
def listing (fields : List (String × List Char)) : List Char :=
  fields.flatMap fun f => '\n' :: tagged f.1 f.2

section Listings

variable {fields : List (String × List Char)}

theorem listing_cons (f : String × List Char) (rest : List Char) :
    listing (f :: fields) ++ rest =
      ['\n'] ++ (openTag f.1 ++ (f.2 ++ (closeTag f.1 ++ (listing fields ++ rest)))) := by
  simp [listing, tagged]

/-- A mark in a listing is one of its tags, or stands in the body of one. -/
theorem infix_listing_iff {mark : List Char} (hmark : Bracketed mark)
    (hnames : ∀ f ∈ fields, IsName f.1) :
    mark <:+: listing fields ++ ['\n'] ↔
      ∃ f ∈ fields, mark = openTag f.1 ∨ mark <:+: f.2 ∨ mark = closeTag f.1 := by
  have hfeed : ¬mark <:+: ['\n'] := by
    intro hoccurs
    have hopen := hoccurs.subset (List.mem_of_mem_head? hmark.head)
    simp at hopen
  induction fields with
  | nil => simpa [listing] using hfeed
  | cons f fields ih =>
      obtain ⟨hf, hfields⟩ := List.forall_mem_cons.mp hnames
      rw [listing_cons, hmark.infix_around_iff (bracketed_open hf),
        hmark.infix_around_iff (bracketed_close hf)]
      simp only [hfeed, ih hfields, false_or, List.mem_cons, exists_eq_or_imp, or_assoc]

/-- A listing of distinct tags whose bodies hold none of them. -/
structure Listed (fields : List (String × List Char)) : Prop where
  names : ∀ f ∈ fields, IsName f.1
  nodup : (fields.map (·.1)).Nodup
  apart : ∀ f ∈ fields, ∀ g ∈ fields, ¬openTag f.1 <:+: g.2 ∧ ¬closeTag f.1 <:+: g.2

/-- Each tag of a listing is found with its body. -/
theorem tag_of_listing (h : Listed fields) {f : String × List Char} (hf : f ∈ fields) :
    tag? f.1 (listing fields ++ ['\n']) = some f.2 := by
  obtain ⟨earlier, later, rfl⟩ := List.append_of_mem hf
  have hname := h.names f hf
  -- the tags before this one have other names, and their bodies hold none of its name
  have hbefore : ¬openTag f.1 <:+: listing earlier ++ ['\n'] := by
    rw [infix_listing_iff (bracketed_open hname) fun g hg => h.names g (by simp [hg])]
    rintro ⟨g, hg, hsame | hinside | hsame⟩
    · have hdistinct := h.nodup
      rw [List.map_append, List.map_cons, List.nodup_append] at hdistinct
      exact hdistinct.2.2 g.1 (List.mem_map_of_mem hg) f.1 List.mem_cons_self
        (open_tag_inj hsame).symm
    · exact (h.apart f hf g (by simp [hg])).1 hinside
    · exact open_tag_ne_close_tag hname hsame
  have htext : listing (earlier ++ f :: later) ++ ['\n'] =
      (listing earlier ++ ['\n']) ++
        (openTag f.1 ++ (f.2 ++ (closeTag f.1 ++ (listing later ++ ['\n'])))) := by
    simp [listing, tagged]
  rw [tag?, htext]
  exact between_of_bracketed (bracketed_open hname) (bracketed_close hname) hbefore
    (h.apart f hf f hf).2 _

end Listings

/-! ## Stated fixes -/

/-- A fix as a reply states it. -/
structure Stated where
  file : String
  /-- The number of the first line, as it is written. -/
  first : String
  last : String
  replaced : String
  new : String
  explanation : String

namespace Stated

/-- The lines that state a fix in the form that is asked for. -/
def lines (s : Stated) : List String :=
  ["<fix>",
   s!"<file>{s.file}</file>",
   s!"<line_start>{s.first}</line_start>",
   s!"<line_end>{s.last}</line_end>",
   "<original>",
   s.replaced,
   "</original>",
   "<fixed>",
   s.new,
   "</fixed>",
   s!"<explanation>{s.explanation}</explanation>",
   "</fix>"]

/-- The block of a reply that states a fix. -/
def text (s : Stated) : String :=
  Prompt.ofLines s.lines

/-- The texts that a stated fix is made of. -/
def texts (s : Stated) : List String :=
  [s.file, s.first, s.last, s.replaced, s.new, s.explanation]

/-- The tags of a stated fix in their order, with their bodies. -/
def fields (s : Stated) : List (String × List Char) :=
  [("file", s.file.toList), ("line_start", s.first.toList), ("line_end", s.last.toList),
    ("original", '\n' :: (s.replaced.toList ++ ['\n'])),
    ("fixed", '\n' :: (s.new.toList ++ ['\n'])), ("explanation", s.explanation.toList)]

theorem text_to_list (s : Stated) :
    s.text.toList = tagged "fix" (listing s.fields ++ ['\n']) := by
  simp only [text, lines, Prompt.ofLines, Text.joined, Text.joinText, List.map_cons, List.map_nil,
    tagged, listing, fields, openTag, closeTag, List.flatMap_cons, List.flatMap_nil, toString,
    String.toList_ofList, String.toList_append, String.reduceToList, List.cons_append,
    List.nil_append, List.append_assoc]

end Stated

/-- The names of the tags in the form of a stated fix. -/
def tagNames : List String :=
  ["fix", "file", "line_start", "line_end", "original", "fixed", "explanation"]

/-- A text that holds no tag of the form. -/
def TagFree (cs : List Char) : Prop :=
  ∀ name ∈ tagNames, ¬openTag name <:+: cs ∧ ¬closeTag name <:+: cs

instance (cs : List Char) : Decidable (TagFree cs) :=
  inferInstanceAs (Decidable (∀ name ∈ tagNames, _))

/-- A text with something in it and no blanks at its ends. -/
def Trimmed (s : String) : Prop :=
  s ≠ "" ∧ Text.trimmed s = s

instance (s : String) : Decidable (Trimmed s) :=
  inferInstanceAs (Decidable (_ ∧ _))

/-- Code that begins with no line feed and ends with no blank. -/
def Bare (code : String) : Prop :=
  code.toList.head? ≠ some '\n' ∧ ∀ c ∈ code.toList.getLast?, Text.isBlank c = false

instance (code : String) : Decidable (Bare code) :=
  haveI : Decidable (∀ c ∈ code.toList.getLast?, Text.isBlank c = false) :=
    Option.decidableForallMem _
  inferInstanceAs (Decidable (_ ∧ _))

/-- A fix is stated in good form, for the lines `m` to `n`. -/
structure Stated.Sound (s : Stated) (m n : Nat) : Prop where
  file : Trimmed s.file
  first : Integer.Writes s.first.toList m
  last : Integer.Writes s.last.toList n
  ordered : m ≤ n
  replaced : Bare s.replaced
  new : Bare s.new
  explanation : Trimmed s.explanation
  tag_free : ∀ text ∈ s.texts, TagFree text.toList

/-- The patch that a fix states for the lines `m` to `n`. -/
def Stated.patch (s : Stated) (m n : Nat) (strategy : String) : Patch where
  changes := [⟨s.file, m, n, s.replaced, s.new⟩]
  strategy
  source := .model
  confidence := 0.7
  explanation := s.explanation

section Reading

variable {s : Stated} {m n : Nat}

theorem text_or_trimmed {text : String} (h : Trimmed text) (absent : String) :
    textOr (some text.toList) absent = text := by
  obtain ⟨hsome, htrimmed⟩ := h
  have htrim : Text.trim text.toList = text.toList := by
    simpa [Text.trimmed] using congrArg String.toList htrimmed
  obtain ⟨c, cs, hlist⟩ :=
    List.exists_cons_of_ne_nil fun hnil => hsome (String.toList_eq_nil_iff.mp hnil)
  rw [textOr, Option.getD_some, htrim, hlist]
  dsimp only
  rw [← hlist, String.ofList_toList]

theorem code_of_wrapped {code : String} (h : Bare code) :
    codeOf (some ('\n' :: (code.toList ++ ['\n']))) = code := by
  have hunwraps : Fence.Unwraps ('\n' :: (code.toList ++ ['\n'])) code.toList :=
    ⟨⟨['\n'], ['\n'], rfl, by simp, List.forall_mem_singleton.mpr (by decide)⟩, h.1, h.2⟩
  rw [codeOf, Option.getD_some, hunwraps.unwrapped_eq, String.ofList_toList]

theorem line_or_writes {numeral : List Char} (h : Integer.Writes numeral n) (absent : Int) :
    lineOr (some numeral) absent = .ok (n : Int) := by
  have htrim : Text.trim numeral = numeral :=
    Text.trim_by_eq_self fun c hc => Text.not_blank_of_digit_like (h.digit_like c hc)
  have hdigits : numeral.all Text.isDigitLike = true := List.all_eq_true.mpr h.digit_like
  have hsome : numeral.isEmpty = false := by simpa using h.some
  rw [lineOr, Option.getD_some, htrim]
  simp only [hdigits, hsome, Bool.not_true, Bool.or_false, Bool.false_eq_true, if_false]
  exact h.read_eq

/-- Line feeds around a text add no tag to it. -/
theorem TagFree.wrapped {cs : List Char} (h : TagFree cs) : TagFree ('\n' :: (cs ++ ['\n'])) := by
  -- tags have no line feed, so none of them reaches from the text into what is around it
  have hlack {mark : List Char} (hmark : '\n' ∉ mark) (hoccurs : mark <:+: '\n' :: (cs ++ ['\n'])) :
      mark <:+: cs := by
    rw [← List.nil_append ('\n' :: _), Text.infix_append_cons_iff hmark,
      Text.infix_append_cons_iff hmark, List.infix_nil] at hoccurs
    rcases hoccurs with rfl | hoccurs | rfl
    · exact List.nil_infix
    · exact hoccurs
    · exact List.nil_infix
  have hfeeds : ∀ name ∈ tagNames, '\n' ∉ openTag name ∧ '\n' ∉ closeTag name := by decide +kernel
  intro name hname
  exact ⟨fun hoccurs => (h name hname).1 (hlack (hfeeds name hname).1 hoccurs),
    fun hoccurs => (h name hname).2 (hlack (hfeeds name hname).2 hoccurs)⟩

theorem Stated.Sound.fields_tag_free (h : s.Sound m n) : ∀ f ∈ s.fields, TagFree f.2 := by
  have hfree := h.tag_free
  simp only [texts, fields, List.forall_mem_cons] at hfree ⊢
  obtain ⟨hfile, hfirst, hlast, hreplaced, hnew, hexplanation, _⟩ := hfree
  exact ⟨hfile, hfirst, hlast, hreplaced.wrapped, hnew.wrapped, hexplanation, by simp⟩

/-- The tags of a fix that is stated in good form stand apart. -/
theorem Stated.Sound.listed (h : s.Sound m n) : Listed s.fields := by
  have hnames : s.fields.map (·.1) = tagNames.tail := rfl
  have hname {f} (hf : f ∈ s.fields) : f.1 ∈ tagNames :=
    List.mem_of_mem_tail (hnames ▸ List.mem_map_of_mem hf)
  have hall : ∀ name ∈ tagNames, IsName name := by decide +kernel
  refine ⟨fun f hf => hall f.1 (hname hf), hnames ▸ by decide, fun f hf g hg => ?_⟩
  exact h.fields_tag_free g hg f.1 (hname hf)

/-- The block of a fix that is stated in good form ends where its closing tag stands. -/
theorem Stated.Sound.tag_of_text (h : s.Sound m n) {before : List Char}
    (hbefore : ¬openTag "fix" <:+: before) (after : List Char) :
    tag? "fix" (before ++ (s.text.toList ++ after)) = some (listing s.fields ++ ['\n']) := by
  have hname : IsName "fix" := by decide +kernel
  have hfix : "fix" ∈ tagNames := List.mem_cons_self
  -- the names in the block differ from that of the block, and its bodies hold no tag at all
  have hclosing : ¬closeTag "fix" <:+: listing s.fields ++ ['\n'] := by
    rw [infix_listing_iff (bracketed_close hname) h.listed.names]
    rintro ⟨f, hf, hsame | hinside | hsame⟩
    · exact open_tag_ne_close_tag (h.listed.names f hf) hsame.symm
    · exact (h.fields_tag_free f hf "fix" hfix).2 hinside
    · have hnames : s.fields.map (·.1) = tagNames.tail := rfl
      have hin : "fix" ∈ tagNames.tail := by
        rw [← hnames, close_tag_inj hsame]
        exact List.mem_map_of_mem hf
      exact absurd hin (by decide)
  rw [s.text_to_list, tagged, List.append_assoc, List.append_assoc]
  exact between_of_bracketed (bracketed_open hname) (bracketed_close hname) hbefore hclosing after

/-- A block whose tags have the bodies of a stated fix gives this fix. -/
theorem Stated.Sound.of_tags_eq (h : s.Sound m n) {block : List Char}
    (htags : ∀ g ∈ s.fields, tag? g.1 block = some g.2) (f : Fault) (strategy : String) :
    ∃ fixed, tag? "fixed" block = some fixed ∧
      ofTags f strategy block fixed = .ok (s.patch m n strategy) := by
  simp only [fields, List.forall_mem_cons] at htags
  obtain ⟨hfile, hfirst, hlast, hreplaced, hnew, hexplanation, _⟩ := htags
  have hordered : max (n : Int) m = n := by
    have := h.ordered
    omega
  refine ⟨_, hnew, ?_⟩
  simp only [ofTags, hfile, hfirst, hlast, hreplaced, hexplanation, line_or_writes h.first,
    line_or_writes h.last, text_or_trimmed h.file, text_or_trimmed h.explanation,
    code_of_wrapped h.replaced, code_of_wrapped h.new, bind, Except.bind, hordered]
  rfl

end Reading

/-- A reply that states a fix in the form that is asked for, in good form, behind any text without
the opening of such a block and in front of any text, offers this fix, for every fault: one change
of the lines in the file that it names, from and to the texts that it states, indentation and all,
with the trust in a stated fix. -/
theorem parse_stated {s : Stated} {m n : Nat} (h : s.Sound m n) {before : String}
    (hbefore : ¬openTag "fix" <:+: before.toList) (after : String) (f : Fault)
    (strategy : String) :
    parse f strategy (before ++ s.text ++ after) = .ok (some (s.patch m n strategy)) := by
  have hblock : tag? "fix" (before ++ s.text ++ after).toList =
      some (listing s.fields ++ ['\n']) := by
    rw [String.toList_append, String.toList_append, List.append_assoc]
    exact h.tag_of_text hbefore after.toList
  obtain ⟨fixed, hfixed, hpatch⟩ :=
    h.of_tags_eq (fun g hg => tag_of_listing h.listed hg) f strategy
  simp only [parse, hblock, hfixed, hpatch]
  rfl

/-- The answer that the instructions of a repair show. -/
def Stated.shown : Stated where
  file := "path/to/file"
  first := "10"
  last := "15"
  replaced := "original code here"
  new := "fixed code here"
  explanation := "Why this fix works"

/-- The form is the one that the instructions show. -/
theorem Stated.shown_in_instructions :
    ∃ lines, Prompt.repairSystem = Prompt.ofLines lines ∧ shown.lines <:+: lines :=
  ⟨_, rfl, by decide +kernel⟩

theorem Stated.shown_sound : shown.Sound 10 15 where
  file := by decide +kernel
  first := ⟨by simp [shown], by simp [shown], by decide +kernel, by decide +kernel⟩
  last := ⟨by simp [shown], by simp [shown], by decide +kernel, by decide +kernel⟩
  ordered := by decide
  replaced := by decide +kernel
  new := by decide +kernel
  explanation := by decide +kernel
  tag_free := by decide +kernel

/-- Other tags in front of the block, and one more block behind it, are not read. -/
theorem parse_stated_shown :
    Stated.shown.Sound 10 15 ∧ ¬openTag "fix" <:+: "A <fixed> file:\n".toList ∧
      parse (Fault.ofFirstLine "a.py") modelStrategy
          ("A <fixed> file:\n" ++ Stated.shown.text ++ "\n<fix></fix>") =
        .ok (some (Stated.shown.patch 10 15 modelStrategy)) := by
  have hbefore : ¬openTag "fix" <:+: "A <fixed> file:\n".toList := by decide +kernel
  exact ⟨Stated.shown_sound, hbefore, parse_stated Stated.shown_sound hbefore _ _ _⟩

end FixReply

end Mender
