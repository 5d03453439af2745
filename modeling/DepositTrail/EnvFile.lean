import DepositTrail.Text.Alphanumeric
import DepositTrail.Text

set_option autoImplicit false

/-! # Environment files

A file of lines `NAME = VALUE`, which may begin with the word `export`, sets variables that the
environment does not have yet. A line of blanks or one that begins with `#` says nothing.

A value is made of parts that stand next to each other: bare text, text between single
quotation marks, which stands for itself, and text between double quotation marks. In the
first and the last a backslash takes the meaning from a quotation mark, a dollar sign, a
backslash or a blank and makes a line break of the letter n; `$NAME` and a name in braces
after a dollar sign stand for the value of a variable. Bare text ends at a blank, after which
only a comment may follow. A quotation may go on over several lines.

The first line that cannot be read ends the reading; what the lines before it have set stays.
-/

namespace DepositTrail

/-- The variables that are set, with their values. -/
abbrev Environment := List (Text × Text)

namespace Environment

def get? (e : Environment) (name : Text) : Option Text := (e.find? fun v => v.1 = name).map Prod.snd

def setNew (e : Environment) (name value : Text) : Environment :=
  if (e.get? name).isSome then e else e ++ [(name, value)]

end Environment

namespace EnvFile

open Text (isBlank)

/-! ## Lines -/

def physicalLines : Text → List Text
  | [] => []
  | c :: t =>
      if c = '\n' then ['\n'] :: physicalLines t
      else
        match physicalLines t with
        | [] => [[c]]
        | line :: lines => (c :: line) :: lines

/-- Where in a line a character stands, as far as it matters for the end of the line. -/
inductive Place
  | plain
  | gap
  | escaped
  | single
  | singleEscaped
  | double
  | doubleEscaped
deriving Repr, DecidableEq

def openPlace (c : Char) : Place :=
  if c = '\\' then .escaped
  else if c = '"' then .double
  else if c = '\'' then .single
  else .plain

def Place.next (p : Place) (c : Char) : Place :=
  match p with
  | .gap => openPlace c
  | .plain => if isBlank c ∧ c ≠ '\n' ∧ c ≠ '\r' then .gap else openPlace c
  | .escaped => .plain
  | .double => if c = '\\' then .doubleEscaped else if c = '"' then .plain else .double
  | .doubleEscaped => .double
  | .single => if c = '\\' then .singleEscaped else if c = '\'' then .plain else .single
  | .singleEscaped => .single

/-- How a line ends: at a comment, of which only what stands before it counts, or at its end. -/
inductive LineEnd
  | comment (before : Text)
  | reached (p : Place)

/-- Follow a line from a place on. -/
def follow : Place → Text → LineEnd
  | p, [] => .reached p
  | p, c :: t =>
      if p = .gap ∧ c = '#' then .comment []
      else
        match follow (p.next c) t with
        | .comment before => .comment (c :: before)
        | e => e

def dropBreak (t : Text) : Text :=
  match t.reverse with
  | '\n' :: '\r' :: r => r.reverse
  | '\n' :: r => r.reverse
  | _ => t

/-- Join lines over which a quotation goes on; `none` stands for one that never ends. -/
def joinLines : Text → Place → List Text → List (Option Text)
  | _, .plain, [] => []
  | _, _, [] => [none]
  | begun, p, line :: lines =>
      let whole := begun ++ line
      if whole.trimStart.head? = some '#' then some [] :: joinLines [] .plain lines
      else
        match follow p line with
        | .comment before => some (begun ++ before) :: joinLines [] .plain lines
        | .reached .plain => some (dropBreak whole) :: joinLines [] .plain lines
        | .reached p => joinLines whole p lines

/-! ## Values -/

def isNameChar (c : Char) : Bool :=
  Text.alphanumericRanges.any fun r => r.1 ≤ c.toNat && c.toNat ≤ r.2

/-- Where in a value a character stands. The flag tells whether a double quotation is open. -/
inductive Part
  | text (quoted : Bool)
  | escape (quoted : Bool)
  | literal
  | name (quoted : Bool) (begun : Text)
  | braced (quoted : Bool) (begun : Text)
  | ended

def escape? (c : Char) : Option Char :=
  if c = '\\' ∨ c = '\'' ∨ c = '"' ∨ c = '$' ∨ c = ' ' then some c
  else if c = 'n' then some '\n'
  else none

/-- Read a value from a part on; `none` if it cannot be read. -/
def readValue (lookup : Text → Text) : Part → Text → Option Text
  | .ended, [] => some []
  | .text quoted, [] => if quoted then none else some []
  | .escape quoted, [] => if quoted then none else some []
  | .literal, [] => none
  | .name quoted begun, [] => if quoted then none else some (lookup begun)
  | .braced _ _, [] => none
  | .ended, c :: t =>
      if c = ' ' ∨ c = '\t' then readValue lookup .ended t
      else if c = '#' then some []
      else none
  | .escape quoted, c :: t => do
      let e ← escape? c
      let rest ← readValue lookup (.text quoted) t
      return e :: rest
  | .literal, c :: t =>
      if c = '\'' then readValue lookup (.text false) t
      else (readValue lookup .literal t).map (c :: ·)
  | .name quoted begun, c :: t =>
      if isNameChar c then readValue lookup (.name quoted (begun ++ [c])) t
      else if c = '\x7b' ∧ begun = [] then readValue lookup (.braced quoted []) t
      else if c = '$' then (readValue lookup (.name quoted []) t).map (lookup begun ++ ·)
      else (readValue lookup (.text quoted) t).map (lookup begun ++ c :: ·)
  | .braced quoted begun, c :: t =>
      if c = '\x7d' then (readValue lookup (.text quoted) t).map (lookup begun ++ ·)
      else readValue lookup (.braced quoted (begun ++ [c])) t
  | .text quoted, c :: t =>
      if c = '$' then readValue lookup (.name quoted []) t
      else if c = '\\' then readValue lookup (.escape quoted) t
      else if c = '"' then readValue lookup (.text (!quoted)) t
      else if quoted then (readValue lookup (.text true) t).map (c :: ·)
      else if c = '\'' then readValue lookup .literal t
      else if c = ' ' ∨ c = '\t' then readValue lookup .ended t
      else (readValue lookup (.text false) t).map (c :: ·)

/-! ## Assignments -/

def isKeyStart (c : Char) : Bool := c.isAlpha || c = '_'

def isKeyChar (c : Char) : Bool := c.isAlphanum || c = '_' || c = '.'

/-- The name at the start of a text, and what follows it. -/
def takeKey? (t : Text) : Option (Text × Text) :=
  match t with
  | [] => none
  | c :: _ => if isKeyStart c then some (t.takeWhile isKeyChar, t.dropWhile isKeyChar) else none

def afterEquals? : Text → Option Text
  | '=' :: t => some t
  | _ => none

/-- The name that a line sets, and the text of its value. -/
def takeAssignment? (line : Text) : Option (Text × Text) := do
  let (key, rest) ← takeKey? line
  let rest := rest.trimStart
  match afterEquals? rest with
  | some value => return (key, value.trimStart)
  | none =>
      if key = "export".toList then
        let (key, rest) ← takeKey? rest
        let value ← afterEquals? rest.trimStart
        return (key, value.trimStart)
      else none

/-- What a line means: nothing, a variable with its value, or nothing that can be read. -/
inductive Meaning
  | nothing
  | sets (name value : Text)
  | unreadable

/-- Read one line. -/
def meaning (lookup : Text → Text) (line : Text) : Meaning :=
  let line := line.trimEnd.trimStart
  if line = [] ∨ line.head? = some '#' then .nothing
  else
    match takeAssignment? line with
    | none => .unreadable
    | some (key, value) =>
        if value = [] ∨ value.head? = some '#' then .sets key []
        else
          match readValue lookup (.text false) value with
          | none => .unreadable
          | some value => .sets key value

/-- Follow the lines until the first one that cannot be read. -/
def apply : Environment → List (Option Text) → Environment
  | e, [] => e
  | e, none :: _ => e
  | e, some line :: lines =>
      match meaning (fun name => (e.get? name).getD []) line with
      | .nothing => apply e lines
      | .sets name value => apply (e.setNew name value) lines
      | .unreadable => e

/-- The environment after a file has been read into it. A byte order mark at the start of the
file is no part of it. -/
def load (e : Environment) (file : Text) : Environment :=
  apply e (joinLines [] .plain (physicalLines (Text.dropOpening ['\ufeff'] file)))

end EnvFile

end DepositTrail
