import Rollout.Doc.Record

/-!
# Rollout.Config.Bindings — which manifest attribute feeds which variable

A plan declares, for each attribute of a component, the variable that takes its value, and names variables whose
persisted value is kept when the manifest has none.

* `Bindings.all`, `Bindings.selected`: the single bindings by rising component and attribute.
* `Bindings.defaultable`: the bound variables that fall back to their default.
* `Bindings.duplicates`: the variables bound more than once.
-/

namespace Rollout

/-- One attribute of a component feeds one variable. -/
structure Binding where
  component : String
  attr : String
  var : String
deriving DecidableEq, Repr, Inhabited

/-- The bindings of a plan: variables by component and attribute, and the variables that are kept. -/
structure Bindings where
  components : Table (Table String)
  preserve : Table Unit
deriving DecidableEq

namespace Bindings

def empty : Bindings := ⟨Table.empty, Table.empty⟩

instance : Inhabited Bindings := ⟨empty⟩

/-- Adds one binding; an attribute feeds one variable only. -/
def bind (b : Bindings) (component attr var : String) : Bindings :=
  let attributes := (b.components.get? component).getD Table.empty
  { b with components := b.components.insert component (attributes.insert attr var) }

/-- Keeps the persisted value of a variable. -/
def keep (b : Bindings) (var : String) : Bindings :=
  { b with preserve := b.preserve.insert var () }

/-- The bindings of one component. -/
def ofComponent (component : String) (attributes : Table String) : List Binding :=
  attributes.entries.map fun (attr, var) => ⟨component, attr, var⟩

/-- Whether a selection of components takes this one in; no selection takes all. -/
def selects (selection : Option (List String)) (component : String) : Bool :=
  match selection with
  | none => true
  | some names => names.contains component

/-- The bindings of the selected components, by rising component and attribute. -/
def selected (b : Bindings) (selection : Option (List String)) : List Binding :=
  (b.components.entries.filter fun (component, _) => selects selection component).flatMap
    fun (component, attributes) => ofComponent component attributes

/-- All bindings, by rising component and attribute. -/
def all (b : Bindings) : List Binding := b.selected none

/-- The variables that the selected components bind and that are not kept. -/
def defaultable (b : Bindings) (selection : Option (List String)) : Table Unit :=
  Table.ofList (((b.selected selection).filter fun x => !b.preserve.contains x.var).map
    fun x => (x.var, ()))

/-- The variables that occur again after their first occurrence. -/
def repeated : List String → List String
  | [] => []
  | v :: rest => if rest.contains v then v :: repeated rest else repeated rest

/-- The variables bound more than once, rising. -/
def duplicates (b : Bindings) : List String :=
  (Table.ofList ((repeated (b.all.map (·.var))).map fun v => (v, ()))).keys

def toJson (b : Bindings) : Json :=
  .obj [("components", .ofTable (b.components.map fun t => .ofTable (t.map .str))),
    ("preserve", .strs b.preserve.keys)]

def decoder : Decoder Bindings :=
  Fields.closed "TfvarMap"
    ((fun components preserve => ⟨components, Table.ofList (preserve.map fun v => (v, ()))⟩)
      <$> Fields.withDefault "components" (Decoder.table (Decoder.table Decoder.string)) Table.empty
      <*> Fields.withDefault "preserve" (Decoder.list Decoder.string) [])

end Bindings

end Rollout
