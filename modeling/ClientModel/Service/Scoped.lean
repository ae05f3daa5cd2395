import ClientModel.OrderedMap
import ClientModel.Text.Blank

/-! Values that may differ from one target language, its scope, to another. -/

namespace ClientModel.Service

/-- A value for all scopes, and values for single ones. -/
structure Scoped (α : Type) where
  all : Option α := none
  single : OrderedMap String α := {}

namespace Scoped

variable {α : Type}

/-- The value that holds in a scope: its own one, or else the one for all. -/
def select (values : Scoped α) (scope : Option String) : Option α :=
  (scope.bind values.single.get?).or values.all

/-- Records a value for all scopes, or for each scope of a list separated by commas. -/
def set (values : Scoped α) (scope : Option String) (value : α) : Scoped α :=
  match scope with
  | none => { values with all := some value }
  | some scopes =>
    { values with
      single := (Text.listedNames scopes).foldl (fun map name => map.insert name value)
        values.single }

end Scoped

end ClientModel.Service
