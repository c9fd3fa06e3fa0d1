import GraphReplay.Log.Config
import GraphReplay.Log.Note
import GraphReplay.Text.Quoted

/-!
# Printed lines

A note is printed either for people or as a record for programs, as its `Layout`
says. The time, and with `fileInfo` the place in the program that told the note,
are not part of the note; they are written as `<time>`, `<file>` and `<line>`, and
in a record as `<file>` and line 0.

For people, parts of a line are set off by terminal codes, which can be left out.

The library that printing runs on (`standard`) writes lines in this way.
-/

namespace GraphReplay.Log

/-- A note as a record. -/
structure Record where
  level : Level
  target : Option String
  message : String
  fields : List (String × Value)
  fileInfo : Bool
  deriving DecidableEq, Repr

/-- A printed line. -/
inductive Line
  | text (s : String)
  | record (r : Record)
  deriving DecidableEq, Repr

namespace Line

/-- How a part of a line is set off on a terminal. -/
inductive Style
  | red
  | green
  | blue
  | yellow
  | purple
  | dim
  | italic
  deriving DecidableEq, Repr

/-- The terminal code of a style. -/
def Style.code : Style → String
  | .red => "31"
  | .green => "32"
  | .yellow => "33"
  | .blue => "34"
  | .purple => "35"
  | .dim => "2"
  | .italic => "3"

/-- A part of a line, set off if `colored`. -/
def paint (colored : Bool) (style : Style) (s : String) : String :=
  if colored then "\x1b[" ++ style.code ++ "m" ++ s ++ "\x1b[0m" else s

/-- The style of a level. -/
def levelStyle : Level → Style
  | .error => .red
  | .warn => .yellow
  | .info => .green
  | .debug => .blue
  | .trace => .purple

/-- The name of a level in five columns. -/
def levelColumn (l : Level) : String :=
  String.ofList (List.replicate (5 - l.tag.length) ' ') ++ l.tag

/-- A value as it is printed for people. -/
def renderValue : Value → String
  | .number n => toString n
  | .plain s => s
  | .quoted s => Text.Quoted.encode s

/-- A note as it is printed for people. -/
def renderText (layout : Layout) (colored : Bool) (n : Note) : String :=
  let target :=
    if layout.target then paint colored .dim n.target ++ paint colored .dim ":" ++ " " else ""
  let place :=
    if layout.fileInfo then
      paint colored .dim "<file>" ++ paint colored .dim ":" ++ paint colored .dim "<line>:" ++ " "
    else ""
  let fields := n.fields.map fun (name, v) =>
    " " ++ paint colored .italic name ++ paint colored .dim "=" ++ renderValue v
  "<time> " ++ paint colored (levelStyle n.level) (levelColumn n.level) ++ " " ++
    target ++ place ++ n.message ++ String.join fields

/-- The lines of a text. A line ends with a line feed, and a carriage return in front of that
    belongs to the end of the line. -/
def linesOf (s : String) : List String :=
  (s.toList.splitOn '\n').map fun l =>
    String.ofList (if l.getLast? = some '\r' then l.dropLast else l)

/-- The lines that a note is printed in. For people it is one, unless a line break is printed as
    it is, in a name; a record is always one. -/
def ofNote (layout : Layout) (colored : Bool) (n : Note) : List Line :=
  match layout.format with
  | .human => (linesOf (renderText layout colored n)).map .text
  | .json =>
    [.record
      { level := n.level
        target := if layout.target then some n.target else none
        message := n.message
        fields := n.fields
        fileInfo := layout.fileInfo }]

end Line

end GraphReplay.Log
