/-!
# Loggers

A logger is known by a name, and a dot in the name puts it below the logger whose
name ends before the dot.

## Main definitions

* `Log.ownLogger`, `Log.fullName` — the names of loggers.
* `Log.above` — the names above a name.
* `Log.belongsTo` — a logger is that of a library or below it.
-/

namespace ClientTrial
namespace Log

/-- The name of the logger of a part of the program. -/
def ownLogger (part : String) : String := "irc_harness." ++ part

/-- The name of the logger that is asked for by a name.  Without a name it is the topmost one. -/
def fullName (name : String) : String := if name = "" then "root" else name

/-- The names above a name, the nearest first, all of them read backwards.  A name is cut at its
last dot, and what is left of it again, but a dot at its very end is passed over then. -/
def above : List Char → List (List Char)
  | [] => []
  | [_] => []
  | c :: d :: rest => if c = '.' then (d :: rest) :: above rest else above (d :: rest)

/-- A logger is that of a library or below it. -/
def belongsTo (library logger : String) : Bool :=
  logger = library || (above logger.toList.reverse).contains library.toList.reverse

end Log
end ClientTrial
