set_option autoImplicit false

/-! # Text

Text is a list of Unicode characters. Every reader of the library takes its input in this
form, and every law about what is read and written is stated on it; `String` appears only
where a finished message is handed out.

The blank characters are the 25 code points with the Unicode property White_Space, so
`trim` also removes a no-break space or an ideographic space. Letter case is folded for
the ASCII letters alone.
-/

namespace DepositTrail

/-- A text is the list of its characters. -/
abbrev Text := List Char

namespace Text

/-! ## Blank characters -/

/-- The code points with the property White_Space, as closed ranges. -/
def blankRanges : List (Nat × Nat) :=
  [(0x09, 0x0d), (0x20, 0x20), (0x85, 0x85), (0xa0, 0xa0), (0x1680, 0x1680),
    (0x2000, 0x200a), (0x2028, 0x2029), (0x202f, 0x202f), (0x205f, 0x205f), (0x3000, 0x3000)]

def isBlank (c : Char) : Bool :=
  blankRanges.any fun r => r.1 ≤ c.toNat && c.toNat ≤ r.2

def trimStart (t : Text) : Text := t.dropWhile isBlank

def trimEnd (t : Text) : Text := (t.reverse.dropWhile isBlank).reverse

def trim (t : Text) : Text := t.trimStart.trimEnd

/-! ## Letter case -/

/-- ASCII capitals become small letters; every other character stays. -/
def lower (t : Text) : Text := t.map Char.toLower

/-! ## Prefixes -/

/-- What follows the given opening, if the text begins with it. -/
def dropOpening? : Text → Text → Option Text
  | [], t => some t
  | _ :: _, [] => none
  | o :: os, c :: t => if o = c then dropOpening? os t else none

/-- The text without the given opening, or all of it when it begins otherwise. -/
def dropOpening (opening t : Text) : Text := (dropOpening? opening t).getD t

end Text

end DepositTrail
