import GraphReplay.Log.FieldTest
import GraphReplay.Log.Note
import GraphReplay.Text.Bytes

/-!
# Directives

A directive says of some notes down to which level they are let through. It is a
level alone, which speaks of all notes, or a target, a selector and a level, of
which each may be left out:

    target[span{field}]=level

* the *target* is what the target of a note has to start with;
* the *selector* asks for a span with a name, for a field, or for both; a field
  is asked for by its name, or by its name and value (`name=value`);
* the *level* is one of `off`, `error`, `warn`, `info`, `debug` and `trace`, in
  any case of its letters, or its depth, 0 to 5. Without a level, everything is
  let through.

Notes are told outside of all spans, and the values of fields are looked at in
spans only. So a directive that asks for a span or a value speaks of no note.

Blanks at the ends of a directive are skipped when its parts are looked for, and
positions are counted from where they end. But the parts are then cut out of the
directive as it is, with its blanks: those in front shift every part, and those
behind belong to a level or a target that ends the directive.
-/

namespace GraphReplay.Log

/-- Why a filter cannot be read. -/
inductive FilterError
  | badLevel
  | badDirective
  | badField (e : PatternError)
  deriving DecidableEq, Repr

/-- The words of a filter that cannot be read. -/
def FilterError.message : FilterError → String
  | .badLevel =>
    "error parsing level filter: expected one of \"off\", \"error\", \"warn\", \"info\", " ++
      "\"debug\", \"trace\", or a number 0-5"
  | .badDirective => "invalid filter directive"
  | .badField e => "invalid field filter: " ++ e.message

/-- What stands between the brackets of a directive. -/
structure Selector where
  span : Option String := none
  field : Option FieldTest := none
  deriving DecidableEq, Repr

/-- Reading a part of a filter. -/
abbrev Reading := Except (Failure FilterError)

/-- A directive that has no shape that can be read. -/
def Reading.bad {α : Type} : Reading α := .error (.error .badDirective)

namespace Selector

/-- Read what follows an opening bracket, up to the closing one; the rest comes back. It begins at
    `position`, and its parts are cut out of `whole`. A span may have the empty name if no field is
    asked for; a field has a text, and is the last thing. -/
def read (whole : List Char) (position : Nat) (s : List Char) : Reading (Selector × List Char) := do
  let stop := position + Text.byteSize (s.takeWhile (· ∉ [']', '\x7b']))
  match s.dropWhile (· ∉ [']', '\x7b']) with
  | ']' :: rest =>
    let name ← Text.cut whole position stop
    return ({ span := some (String.ofList name) }, rest)
  | _ :: rest =>
    let name ← Text.cut whole position stop
    match rest.dropWhile (· ≠ '\x7d') with
    | [] => .bad
    | _ :: after =>
      let size := Text.byteSize (rest.takeWhile (· ≠ '\x7d'))
      let text ← Text.cut whole (stop + 1) (stop + 1 + size)
      if text.isEmpty then .bad
      else
        let field ← (FieldTest.read text).mapError (.error ∘ FilterError.badField)
        match after with
        | ']' :: rest =>
          let span := if name.isEmpty then none else some (String.ofList name)
          return ({ span, field := some field }, rest)
        | _ => .bad
  | [] => .bad

/-- Whether a note, which is in no span, is meant. -/
def selects (s : Selector) (n : Note) : Bool :=
  s.span.isNone && s.field.all fun f => f.value.isNone && n.fieldNames.contains f.name

end Selector

/-- What `target` and `selector` mean is let through down to `depth`. -/
structure Directive where
  target : String := ""
  selector : Selector := {}
  depth : Nat
  deriving DecidableEq, Repr

namespace Directive

/-- The depth that a number stands for. -/
def depthOfNumber? (s : List Char) : Option Nat :=
  let digits := if s.head? = some '+' then s.drop 1 else s
  if digits.isEmpty ∨ ¬ digits.all Char.isDigit then none
  else
    let n := digits.foldl (fun n c => 10 * n + (c.toNat - '0'.toNat)) 0
    if n ≤ 5 then some n else none

/-- The depth that a word stands for. -/
def depthOfWord? (s : String) : Option Nat :=
  let w := s.map Char.toLower
  if w = "off" then some 0 else (Level.all.find? (·.word = w)).map Level.depth

/-- The depth that a level stands for, as a number or a word. -/
def depth? (s : List Char) : Option Nat :=
  depthOfNumber? s <|> depthOfWord? (String.ofList s)

/-- Whether a directive may start with `c`. -/
def mayStart (c : Char) : Bool := Text.isAlphanumeric c || c ∈ ['-', ':', '_', '[']

/-- A directive of one word: a level if it can be, and else a target. -/
def ofWord (s : List Char) : Directive :=
  match depth? s with
  | some depth => { depth }
  | none => { target := String.ofList s, depth := Level.trace.depth }

/-- Read what follows the target and the selector, at `position`: a level, or nothing. -/
def readDepth (whole : List Char) (position : Nat) : List Char → Reading Nat
  | [] => return Level.trace.depth
  | '=' :: _ => do
    let level ← Text.cutFrom whole (position + 1)
    if level.isEmpty then return Level.trace.depth
    else (depth? level).elim (.error (.error .badLevel)) .ok
  | _ => .bad

/-- A text without the blanks at its ends. -/
def trim (s : List Char) : List Char :=
  ((s.dropWhile Text.isBlank).reverse.dropWhile Text.isBlank).reverse

/-- Read one directive. -/
def parse (s : List Char) : Reading Directive := do
  let text := trim s
  if ¬ text.head?.any mayStart then .bad
  else
    let stop := Text.byteSize (text.takeWhile (· ∉ ['=', '[']))
    match text.dropWhile (· ∉ ['=', '[']) with
    | [] => return ofWord s
    | '[' :: rest =>
      let target ← Text.cut s 0 stop
      let (selector, rest) ← Selector.read s (stop + 1) rest
      let depth ← readDepth s (Text.byteSize text - Text.byteSize rest) rest
      return { target := String.ofList target, selector, depth }
    | rest =>
      let target ← Text.cut s 0 stop
      return { target := String.ofList target, depth := ← readDepth s stop rest }

/-- Whether a directive speaks of a note. -/
def covers (d : Directive) (n : Note) : Bool := d.target.isPrefixOf n.target && d.selector.selects n

/-- The name of the field that a directive asks for, or the empty text. -/
def fieldName (d : Directive) : String := (d.selector.field.map FieldTest.name).getD ""

/-- Whether `a` says less about which notes it speaks of than `b`, if both speak of the same note:
    by the length of the target, and then by whether it asks for a field. That leaves directives
    which ask for different fields; of these the names decide. -/
def lessParticular (a b : Directive) : Bool :=
  a.target.length < b.target.length ||
    (a.target.length = b.target.length && a.fieldName < b.fieldName)

end Directive

end GraphReplay.Log
