import DriverAlerts.Blake3
import DriverAlerts.Policy.Slot
/-!
# The layout of a table

Which events have rows, and which categories each row has, is the layout of a table. It is written as
text in declaration order, each event followed by a colon, each of its categories by a comma, and each
row by a semicolon. The digest of that text lets two processes find out whether they classify every
event alike. What the slots hold has no part in it.
-/

namespace DriverAlerts

namespace Layout

/-- The categories of a row, each followed by a comma. -/
def categories (row : Row) : List Char :=
  row.categories.flatMap fun category => category.name.toList ++ [',']

/-- One event and its row; nothing without a row. -/
def line (event : Event) : Option Row → List Char
  | none => []
  | some row => event.name.toList ++ ':' :: categories row ++ [';']

/-- The layout of rows as text. -/
def text (row? : Event → Option Row) : String :=
  String.ofList (Event.all.flatMap fun event => line event (row? event))

/-- The digest of a layout. -/
def fingerprint (row? : Event → Option Row) : String :=
  Blake3.hexDigest (text row?).toUTF8.toList

end Layout

end DriverAlerts
