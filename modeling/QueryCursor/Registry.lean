import QueryCursor.Action
import QueryCursor.Text.Delimited

/-!
# Driver registry

Driver classes are looked up by the path of their module and their name.
-/

namespace QueryCursor

/-- A module by its path, with the classes it offers.  A package only leads to
modules. -/
structure Module where
  path : String
  classes : List String
  isPackage : Bool := false

namespace Registry

/-- The modules that exist. -/
def modules : List Module := [
  { path := "asynccursor", classes := [], isPackage := true },
  { path := "asynccursor.drivers", classes := ["BaseDriver"], isPackage := true },
  { path := "asynccursor.drivers.dummy"
    classes := ["dummy", "dummyStream", "Any", "BaseDriver", "EmptyStatement", "Mapping",
      "Record", "ResultCursor", "ResultSummary", "Sequence"] },
  { path := "asynccursor.drivers.bolt"
    classes := ["bolt", "BaseDriver", "ServiceUnavailable"] },
  { path := "asynccursor.drivers.routing", classes := ["routing", "bolt"] },
  { path := "asynccursor.drivers.abstract"
    classes := ["ABC", "Any", "AuthToken", "BaseDriver", "Config", "DriverError"] }]

/-- The module at a path. -/
def module? (path : String) : Option Module :=
  modules.find? (·.path = path)

/-- The paths of the packages that lead to a module, and its own, outermost
first. -/
def pathsTo (path : String) : List String :=
  let parts := Text.pieces '.' path.toList
  (List.range parts.length).map fun count =>
    String.ofList (List.intercalate ['.'] (parts.take (count + 1)))

/-- Why a module cannot be imported: the first path on the way to it that does
not exist, and whether a plain module stands where a package would be needed. -/
def missingText (path : String) : Option String :=
  match (pathsTo path).find? fun step => (module? step).isNone with
  | none => none
  | some missing =>
    let parent := String.ofList
      (List.intercalate ['.'] (Text.pieces '.' missing.toList).dropLast)
    let reason := "No module named " ++ Text.quote missing
    match module? parent with
    | some enclosing =>
      if enclosing.isPackage then some reason
      else some (reason ++ "; " ++ Text.quote parent ++ " is not a package")
    | none => some reason

/-- The class of a given name in the module at a path.  A missing module is
reported. -/
def find {σ : Type} (name path : String) : Action σ String :=
  if path.isEmpty then throw (Fault.notImported .emptyName)
  else if path.startsWith "." then throw (Fault.notImported (.relative path))
  else
    match missingText path with
    | some reason => do
      Action.report ⟨"root", .error,
        "No Driver for provider " ++ name ++ " was found: " ++ reason⟩
      throw (Fault.notImported (.noProvider name))
    | none =>
      let offered :=
        match module? path with
        | some found => found.classes.contains name
        | none => false
      if offered then return name
      else throw (Fault.notImported (.noDriver path name))

end Registry

end QueryCursor
