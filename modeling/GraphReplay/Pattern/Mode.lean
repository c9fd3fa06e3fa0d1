import GraphReplay.Text.Blank

/-!
# Modes of a pattern

A pattern is a regular expression. How it is read depends on flags that it can
switch on and off itself, for the rest of the group that it is in, or for a group
of its own. Three of them decide which patterns can be read:

* without case, letters would have to be known in both cases; they are so among
  ASCII only, which is enough where characters are not taken from Unicode;
* where characters are not taken from Unicode, nothing may match a byte that is
  not ASCII by itself;
* where a pattern is spaced out, blanks in it count for nothing, and a `#` begins
  a comment that ends with its line.
-/

namespace GraphReplay.Pattern

/-- What a pattern can switch. -/
inductive Flag
  | caseless
  | multiLine
  | dotAll
  | swapGreed
  | unicode
  | crlf
  | spaced
  deriving DecidableEq, Repr

/-- The flag that a letter stands for. -/
def Flag.ofChar? : Char → Option Flag
  | 'i' => some .caseless
  | 'm' => some .multiLine
  | 's' => some .dotAll
  | 'U' => some .swapGreed
  | 'u' => some .unicode
  | 'R' => some .crlf
  | 'x' => some .spaced
  | _ => none

/-- The flags that decide which patterns can be read. -/
structure Mode where
  caseless : Bool := false
  unicode : Bool := true
  spaced : Bool := false
  deriving DecidableEq, Repr

namespace Mode

/-- Switch a flag. -/
def set (m : Mode) (on : Bool) : Flag → Mode
  | .caseless => { m with caseless := on }
  | .unicode => { m with unicode := on }
  | .spaced => { m with spaced := on }
  | _ => m

/-- Skip blanks and comments. -/
def skipSpaced : (inComment : Bool) → List Char → List Char
  | _, [] => []
  | true, c :: s => skipSpaced (c ≠ '\n') s
  | false, c :: s =>
    if Text.isBlank c then skipSpaced false s
    else if c = '#' then skipSpaced true s
    else c :: s

/-- Skip what counts for nothing. -/
def skip (m : Mode) (s : List Char) : List Char := if m.spaced then skipSpaced false s else s

/-- The next character that counts, as far as one looks ahead: past blanks and the mark of a
    comment, but not past the comment. Where there is none, it is the next character of all. -/
def peek? (m : Mode) (s : List Char) : Option Char :=
  if m.spaced then
    match s.dropWhile Text.isBlank with
    | '#' :: rest => (rest.dropWhile Text.isBlank).head? <|> s.head?
    | rest => rest.head? <|> s.head?
  else s.head?

/-- How a list of flags ends: with the group that they are for, or with nothing more. -/
inductive FlagsEnd
  | group
  | directive
  deriving DecidableEq, Repr

/-- Read flags. Those behind a `-` are switched off. No flag comes twice, a `-` comes once and is
    not the last, and for the rest of a group there is at least one flag. `given` are the flags
    read before, `off` and `dangling` say whether a `-` was read, and whether it was the last. -/
def readFlags (m : Mode) (given : List Flag) (off dangling : Bool) :
    List Char → Option (Mode × FlagsEnd × List Char)
  | [] => none
  | ':' :: s => if dangling then none else some (m, .group, s)
  | ')' :: s => if dangling || given.isEmpty then none else some (m, .directive, s)
  | '-' :: s => if off then none else readFlags m given true true s
  | c :: s =>
    match Flag.ofChar? c with
    | none => none
    | some f => if f ∈ given then none else readFlags (m.set (!off) f) (f :: given) off false s

end Mode

end GraphReplay.Pattern
