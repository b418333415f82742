import Larder.Text.Control
import Larder.Text.Markup
import Larder.Text.Tabs

/-!
# Larder — console messages

What a command says: plain lines, messages of three levels, and tables. A message starts with the
glyph of its level when glyphs are wanted. It loses the characters that ring or move the cursor,
its tabs become spaces, and the rest of it is shown as it is. A plain line keeps all of these and
loses its control sequences, as no terminal is there to obey them.

A table is laid out by a console, which is the one part of this that is not the commands' own. It
reads the title, the headers and the cells as markup, whatever is in them; with a text that cannot
be read the table is not printed at all, and the command that wanted to print it is stopped.

## Results

* `Console.prints_of_plain`: a table of texts without opening brackets is printed.
-/

namespace Larder

/-- The level of a message. -/
inductive Level where
  | ok
  /-- Something is remarkable. -/
  | warn
  | fail
  deriving DecidableEq, Repr

namespace Level

/-- The glyph of a level, with the space after it. -/
def glyph : Level → String
  | ok => "✅ "
  | warn => "⚠\uFE0F "
  | fail => "❌ "

/-- A message as it is printed, without the line break after it. -/
def line (level : Level) (glyphs : Bool) (text : String) : String :=
  let whole := if glyphs then level.glyph ++ text else text
  String.ofList (Text.expandTabs (Text.dropMotion whole.toList))

end Level

/-- A table. -/
structure Table where
  title : String
  columns : List String
  rows : List (List String)
  /-- The style of each row, if it has one. -/
  styles : List (Option String)
  deriving DecidableEq, Repr

/-- The texts of a table. -/
def Table.texts (t : Table) : List String := t.title :: (t.columns ++ t.rows.flatten)

/-- Something a command says. -/
inductive Output where
  | echo (text : String)
  | message (level : Level) (text : String)
  | table (t : Table)
  deriving DecidableEq, Repr

/-- A plain line as it is printed, without the line break after it. -/
def echoLine (text : String) : String := String.ofList (Text.dropSequences text.toList)

/-- Where tables are printed. -/
structure Console where
  /-- Whether a text can be read as markup. -/
  reads : String → Bool
  /-- A text without opening brackets has no markup in it. -/
  reads_of_plain : ∀ {text : String}, '[' ∉ text.toList → reads text = true
  /-- A table whose texts can be read, laid out. -/
  layout : Table → String

namespace Console

/-- Whether a table can be printed. -/
def prints (c : Console) (t : Table) : Bool := t.texts.all c.reads

/-- Whether something that a command says can be printed. -/
def accepts (c : Console) : Output → Bool
  | .table t => c.prints t
  | _ => true

/-- A console that prints a table line by line, the cells apart by tabs. -/
def tabbed : Console where
  reads := Markup.reads
  reads_of_plain := Markup.reads_of_not_mem
  layout t := "\n".intercalate
    (t.title :: (t.columns :: t.rows).map fun cells => "\t".intercalate cells)

end Console

/-- What is printed for something that is said. -/
def Output.text (c : Console) (glyphs : Bool) : Output → String
  | .echo text => echoLine text ++ "\n"
  | .message level text => level.line glyphs text ++ "\n"
  | .table t => c.layout t ++ "\n"

end Larder
