import DriverAlerts.Alert.Basic
/-!
# Selection

Which of several alerts is shown is decided by priority alone, and among alerts of one priority the
earliest stays. The choice is made in one pass, either among all alerts or within each category, where
alerts that were not resolved for any category take no part. The items that are chosen from may carry
more than an alert.
-/

namespace DriverAlerts.Selection

variable {α : Type} (alert : α → Alert)

/-- The winner so far against one more item. -/
def prefer (best : Option α) (item : α) : Option α :=
  match best with
  | none => some item
  | some current => if (alert item).outranks (alert current) then some item else some current

/-- The first item of highest priority. -/
def highest (items : List α) : Option α :=
  items.foldl (prefer alert) none

/-- The winners so far against one more item of a category. -/
def preferIn (winners : List (Category × α)) (category : Category) (item : α) :
    List (Category × α) :=
  match winners with
  | [] => [(category, item)]
  | (c, current) :: winners =>
    if c = category then
      (c, if (alert item).outranks (alert current) then item else current) :: winners
    else (c, current) :: preferIn winners category item

/-- The winners of the categories that have any, in the order in which categories appear. -/
def winners (items : List α) : List (Category × α) :=
  items.foldl
    (fun winners item =>
      match (alert item).category with
      | some category => preferIn alert winners category item
      | none => winners)
    []

/-- The first item of highest priority of each category, in declaration order of the categories. -/
def perCategory (items : List α) : List (Category × α) :=
  let winners := winners alert items
  Category.all.filterMap fun category => (winners.lookup category).map fun item => (category, item)

end DriverAlerts.Selection
