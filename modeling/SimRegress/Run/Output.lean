import SimRegress.Text.Blank
import SimRegress.Text.Search

/-!
What the text a simulation prints, and the text describing a core file, tell.

A warning about a deprecated feature is a line holding `Deprecated feature called:`; lines end
at a line feed, and a carriage return before it belongs to the break. A core file's description
names the program that left it after `from '`, up to the next quote; the program is the first
word of that command, and a description that does not say `core file` names none.
-/

namespace SimRegress

/-- The text that marks a warning about a deprecated feature. -/
def deprecationMarker : String := "Deprecated feature called:"

/-- The number of lines that warn about a deprecated feature. -/
def deprecationCount (output : String) : Nat :=
  ((Text.lines output).filter (Text.contains · deprecationMarker)).length

/-- The quote mark that ends the command in a core file's description. -/
def commandQuote : Char := Char.ofNat 39

/-- The program that left a core file, read off the file's description. -/
def coreExecutable? (description : String) : Option String := do
  guard (Text.contains description "core file")
  let rest ← Text.dropThrough "from '".toList description.toList
  guard (rest.contains commandQuote)
  let command := rest.takeWhile (· != commandQuote)
  let word := command.takeWhile (· != ' ')
  guard !word.isEmpty
  pure (String.ofList word)

end SimRegress
