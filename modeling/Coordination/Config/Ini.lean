/-
Coordination.Config.Ini — documents of sections, keys and values.

A document is read item by item. A semicolon or number sign at the start
of a line begins a comment; a name in square brackets begins a section;
all else is a key up to the first equals sign or colon, with a value up
to the end of the line. Quoted parts at the start of a value may hold
line breaks. A backslash starts an escape in names, keys and values
alike.

White space after an item is skipped, up to a line end that a blank
follows: the blanks after it begin an indented line. At the start of an
item, blanks before a section are passed over, and so are blanks before a
line end, together with it; before anything else they mark an indented
key. An indented key that cannot be read is given up where it goes wrong,
and reading goes on from there.

  §1 Escapes    — `scan`, text up to a stop with its escapes resolved.
  §2 Values     — `value`.
  §3 Items      — `step`, `items`.
  §4 Documents  — `Document`, `parse?`, `get?`.
-/
import Coordination.Text.Blank
import Coordination.Text.Numeral

namespace Coordination.Config.Ini

/-! ## §1 Escapes -/

/-- Where a scan stands. -/
inductive Mode where
  | plain
  /-- After a backslash. -/
  | escape
  /-- After a backslash and an `x`, with some of the four characters that follow. -/
  | code (read : List Char)
  deriving DecidableEq, Repr

/-- What is left to read, and whether it starts a line. -/
structure Position where
  rest : List Char
  lineStart : Bool
  deriving DecidableEq, Repr

/-- A text and what follows it, or the place at which it goes wrong. -/
abbrev Scan := Except Position (List Char × List Char)

/-- The character that stands for an escaped one. -/
def escaped (c : Char) : Char :=
  if c = '0' then '\x00'
  else if c = 'a' then '\x07'
  else if c = 'b' then '\x08'
  else if c = 't' then '\t'
  else if c = 'r' then '\r'
  else if c = 'n' then '\n'
  else c

/-- The character with a number; surrogates are none. -/
def charOf? (n : Nat) : Option Char :=
  if h : n.isValidChar then some (Char.ofNatAux n h) else none

/-- The character of a code: hexadecimal digits, of which the first may be a plus sign. -/
def codeChar? (code : List Char) : Option Char :=
  let digits := match code with
    | '+' :: rest => rest
    | _ => code
  (Text.hexDigits? 0 digits).bind charOf?

/-- Puts a character before a text. -/
def push (c : Char) : Scan → Scan
  | .ok (text, rest) => .ok (c :: text, rest)
  | .error position => .error position

/-- Reads up to one of the stops, which is not consumed, or to the end. A backslash at the end of
a line joins it with the next one; one at the very end stands for itself. -/
def scan (stops : List Char) : Mode → List Char → Scan
  | .plain, [] => .ok ([], [])
  | .plain, c :: rest =>
    if c ∈ stops then .ok ([], c :: rest)
    else if c = '\\' then scan stops .escape rest
    else push c (scan stops .plain rest)
  | .escape, [] => .ok (['\\'], [])
  | .escape, c :: rest =>
    if c = 'x' then scan stops (.code []) rest
    else if c = '\n' then scan stops .plain rest
    else push (escaped c) (scan stops .plain rest)
  | .code _, [] => .error ⟨[], false⟩
  | .code read, '\\' :: '\n' :: rest =>
    if read.length = 3 then .error ⟨'\n' :: rest, false⟩
    else scan stops (.code (read ++ ['\\'])) rest
  | .code read, c :: rest =>
    if c = '\\' then .error ⟨rest, false⟩
    else if read.length = 3 then
      match codeChar? (read ++ [c]) with
      | some decoded => push decoded (scan stops .plain rest)
      | none => .error ⟨c :: rest, read.getLast? = some '\n' ∨ read.getLast? = some '\\'⟩
    else scan stops (.code (read ++ [c])) rest

/-! ## §2 Values -/

/-- Characters that end a line. -/
def lineEnds : List Char := ['\n', '\r']

/-- Skips white space within a line. -/
def skipInLine (cs : List Char) : List Char :=
  cs.dropWhile fun c => Text.isBlank c && !(lineEnds.contains c)

/-- Reads quoted parts and then the rest of the line. White space is removed before a part without
quotes only if it is the first one, and always after it. A part takes one character off the bound; a
bound as long as the text is never used up before it, as quoted parts hold two characters or more. -/
def valueParts : (bound : List Char) → (first : Bool) → List Char → Scan
  | [], _, cs => .ok ([], cs)
  | _ :: bound, first, cs => match cs with
    | [] => .ok ([], [])
    | c :: rest =>
      if c = '"' ∨ c = '\x27' then
        match scan [c] .plain rest with
        | .ok (text, _ :: after) => match valueParts bound false after with
          | .ok (more, remaining) => .ok (text ++ more, remaining)
          | .error position => .error position
        | .ok (_, []) => .error ⟨[], false⟩
        | .error position => .error position
      else match scan lineEnds .plain cs with
        | .ok (text, after) => .ok (if first then Text.trim text else Text.trimEnd text, after)
        | .error position => .error position

/-- Reads a value, from behind the equals sign to the end of the line. -/
def value (cs : List Char) : Scan := valueParts (skipInLine cs) true (skipInLine cs)

/-! ## §3 Items -/

inductive Item where
  | header (name : String)
  | entry (key value : String)
  deriving DecidableEq, Repr

/-- A blank within a line, as it is used to indent. -/
def isIndent (c : Char) : Bool := c = ' ' || c = '\t'

/-- Skips white space, up to the blanks that begin a line. Only a line end that is itself skipped
begins such a line. -/
def skip (lineStart : Bool) : List Char → Position
  | [] => ⟨[], lineStart⟩
  | c :: rest =>
    if lineEnds.contains c then
      if rest.head?.any isIndent then ⟨rest, c = '\n'⟩ else skip (c = '\n') rest
    else if Text.isBlank c then skip false rest
    else ⟨c :: rest, lineStart⟩

inductive Step where
  | finished
  | item (item : Item) (next : Position)
  /-- A comment, or text that is passed over. -/
  | nothing (next : Position)
  | malformed

/-- Characters that end a key. -/
def keyEnds : List Char := ['=', ':']

/-- Reads the value of a key. A key is not empty. -/
def entry (key rest : List Char) : Step :=
  match Text.trim key, value rest with
  | [], _ => .malformed
  | _, .error _ => .malformed
  | name, .ok (text, after) =>
    .item (.entry (String.ofList name) (String.ofList text)) (skip false after)

/-- Reads a key and its value. -/
def keyed (cs : List Char) : Except Position Step :=
  match scan keyEnds .plain cs with
  | .ok (key, _ :: after) => .ok (entry key after)
  | .ok (_, []) => .error ⟨[], false⟩
  | .error position => .error position

/-- Reads what follows blanks at the start of an item. -/
def indented (cs : List Char) : Step :=
  match cs with
  | [] => .finished
  | c :: rest =>
    if lineEnds.contains c then .nothing ⟨rest, c = '\n'⟩
    else if c = '[' then .nothing ⟨cs, false⟩
    else match keyed cs with
      | .ok step => step
      | .error position => .nothing (skip position.lineStart position.rest)

/-- Reads one item. -/
def step (position : Position) : Step :=
  match position.rest with
  | [] => .finished
  | c :: rest =>
    if c = ';' ∨ c = '#' then
      if position.lineStart then .nothing (skip true ((rest.dropWhile (· ≠ '\n')).drop 1))
      else .malformed
    else if c = '[' then
      match scan [']'] .plain rest with
      | .ok (name, _ :: after) =>
        .item (.header (String.ofList (Text.trim name))) (skip false after)
      | _ => .malformed
    else if lineEnds.contains c then .nothing (skip (c = '\n') rest)
    else if isIndent c then indented (rest.dropWhile isIndent)
    else match keyed (c :: rest) with
      | .ok step => step
      | .error _ => .malformed

/-- Reads at most `limit` items. -/
def items : (limit : Nat) → Position → Option (List Item)
  | 0, _ => some []
  | limit + 1, position => match step position with
    | .finished => some []
    | .item item next => (items limit next).map (item :: ·)
    | .nothing next => items limit next
    | .malformed => none

/-! ## §4 Documents -/

/-- A section and its entries in the order in which they are written. -/
structure Section where
  name : String
  entries : List (String × String)
  deriving DecidableEq, Repr

/-- Sections in the order in which they are written; names and keys may occur again. -/
structure Document where
  sections : List Section
  deriving DecidableEq, Repr

/-- The sections of items, and the entries before the first section. -/
def group : List Item → List (String × String) × List Section
  | [] => ([], [])
  | .entry key value :: rest => ((key, value) :: (group rest).1, (group rest).2)
  | .header name :: rest => ([], ⟨name, (group rest).1⟩ :: (group rest).2)

/-- Reads a document. Entries before the first section belong to none and are left out. -/
def parse? (cs : List Char) : Option Document :=
  (items (cs.length + 1) ⟨cs, true⟩).map fun items => ⟨(group items).2⟩

/-- The value of the first such key in the first section of a name. -/
def Document.get? (document : Document) (name key : String) : Option String :=
  (document.sections.find? (·.name = name)).bind fun found =>
    (found.entries.find? (·.1 = key)).map (·.2)

end Coordination.Config.Ini
