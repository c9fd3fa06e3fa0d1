import GraphReplay.Log.Level

/-!
# What can be chosen about printing

A configuration is given by a caller, or read from the environment. A variable
whose value is not text counts as absent.
-/

namespace GraphReplay.Log

/-- The values of the environment variables that are text. -/
abbrev Environment := String → Option String

/-- How lines are to be printed. -/
structure Layout where
  format : Format
  /-- Whether it is printed who tells a note. -/
  target : Bool
  /-- Whether the place in the program, its file and line, is printed too. -/
  fileInfo : Bool
  deriving DecidableEq, Repr

/-- What can be chosen about printing. -/
structure Config where
  level : Level := Level.default
  format : Format := Format.default
  /-- Whether the place in the program is printed too. -/
  fileInfo : Bool := false
  deriving DecidableEq, Repr

namespace Config

/-- The choices of the environment. A word that is not understood chooses nothing. -/
def ofEnvironment (env : Environment) : Config where
  level := ((env "GRAPH_WORKSPACE_LOG_LEVEL").bind Level.parse?).getD Level.default
  format := ((env "GRAPH_WORKSPACE_LOG_FORMAT").bind Format.parse?).getD Format.default

/-- The choices that a caller makes in words; what is not given, or not understood, stays. -/
def choose (c : Config) (level format : Option String) (fileInfo : Option Bool) : Config where
  level := (level.bind Level.parse?).getD c.level
  format := (format.bind Format.parse?).getD c.format
  fileInfo := fileInfo.getD c.fileInfo

/-- The layout of the lines. Records do not say who tells a note. -/
def layout (c : Config) : Layout where
  format := c.format
  target := c.format = .human
  fileInfo := c.fileInfo

end Config

end GraphReplay.Log
