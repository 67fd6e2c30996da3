import ElmOnSave.Generation
import ElmOnSave.Machine.TextFile

/-!
# The root of a project

The project of a file is the nearest directory above it that holds a manifest, and the manifest
tells the generation of the compiler: `elm.json` belongs to 0.19, and an `elm-package.json` to 0.18
unless the lower bound of its version constraint is 0.19 or later.
-/

namespace ElmOnSave

/-- The manifest of generation 0.19. -/
def manifestName : String := "elm.json"

/-- The manifest of generation 0.18. -/
def oldManifestName : String := "elm-package.json"

/-- Whether a directory holds a manifest. -/
def holdsManifest (m : Machine) (directory : Path) : Except Fault Bool := do
  if ← (m.isFile (directory.child manifestName)).mapError Fault.system then return true
  (m.isFile (directory.child oldManifestName)).mapError .system

/-- The first directory that holds a manifest. -/
def firstWithManifest (m : Machine) : List Path → Except Fault (Option Path)
  | [] => .ok none
  | d :: ds =>
    match holdsManifest m d with
    | .error e => .error e
    | .ok true => .ok (some d)
    | .ok false => firstWithManifest m ds

/-- The nearest directory above a path, or the path itself when it is a directory, that holds a
manifest. -/
def projectRoot? (m : Machine) (path : Path) : Except Fault (Option Path) := do
  let some p := m.expandHome? path | throw (.ofHome (Machine.namesNullAccount path.text))
  let candidate := p.absolute m.here
  let isDirectory ← (m.isDirectory candidate).mapError Fault.system
  let start := if isDirectory then candidate else candidate.parent
  firstWithManifest m (start :: start.ancestors)

/-! ## Generations -/

/-- The major and minor number at the start of a version constraint, as they are written. -/
def lowerBound? (constraint : List Char) : Option (List Char × List Char) :=
  let cs := constraint.dropWhile Text.isBlank
  let major := cs.takeWhile Text.isDecimal
  match cs.drop major.length with
  | '.' :: rest =>
    let minor := rest.takeWhile Text.isDecimal
    if major.isEmpty || minor.isEmpty then none else some (major, minor)
  | _ => none

/-- The number a run of digits spells, if it is short enough to be read. -/
def readNumber (digits : List Char) : Except Fault Nat :=
  if Decimal.digitLimit < digits.length then .error (.integerTooLong digits.length)
  else .ok (Text.ofDigits digits)

/-- The generation that a version constraint asks for. -/
def generationOfConstraint (constraint : List Char) : Except Fault Generation :=
  match lowerBound? constraint with
  | none => .ok .issueArrays
  | some (major, minor) => do
    let a ← readNumber major
    let b ← readNumber minor
    return if 0 < a ∨ 19 ≤ b then .reportDocuments else .issueArrays

/-- The version constraint of a manifest; a manifest that is no object has none. -/
def constraintOf (manifest : Value) : List Char :=
  match manifest.get? "elm-version" with
  | some (.text t) => t.shown.toList
  | _ => []

/-- The generation that an `elm-package.json` belongs to; an unreadable one belongs to 0.18. -/
def generationOfManifest [Platform] (m : Machine) (manifest : Path) : Except Fault Generation :=
  match m.readText manifest.text with
  | .error _ => .ok .issueArrays
  | .ok cs =>
    match Json.read cs with
    | .error .nestedTooDeep => .error .nestedTooDeep
    | .error _ => .ok .issueArrays
    | .ok v => generationOfConstraint (constraintOf v)

/-- The root and generation for a file.  Without a manifest they are the workspace, or else the
directory of the file, and generation 0.19. -/
def detectProject [Platform] (m : Machine) (file : Path) (workspace : Option Path) :
    Except Fault (Path × Generation) := do
  match ← projectRoot? m file with
  | none => return (workspace.getD (file.absolute m.here).parent, .reportDocuments)
  | some root =>
    if ← (m.isFile (root.child manifestName)).mapError Fault.system then
      return (root, .reportDocuments)
    return (root, ← generationOfManifest m (root.child oldManifestName))

end ElmOnSave
