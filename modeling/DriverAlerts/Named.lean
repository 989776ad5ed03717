/-!
# Closed vocabularies

Events, categories and the styles of an alert are finite sets of words. Each word has one name, which
is what records and configuration files carry, and the words stand in a fixed order, which is the
order of every listing. Reading a name is a search for the word that bears it, so a name is understood
exactly when some word has it.
-/

namespace DriverAlerts

/-- A finite type of named words: `all` lists them in declaration order. -/
class Named (α : Type) where
  all : List α
  name : α → String

namespace Named

variable {α : Type} [Named α]

/-- The word that bears a name, if there is one. -/
def ofName? (text : String) : Option α :=
  (all : List α).find? fun word => name word == text

/-- The position of a word in declaration order. -/
def rank [BEq α] (word : α) : Nat :=
  (all : List α).idxOf word

/-- The name with a capital initial, as words are written in descriptions of an alert. -/
def title (word : α) : String :=
  (name word).capitalize

end Named

end DriverAlerts
