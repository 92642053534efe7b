import RunBoard.Settings
import RunBoard.Toml.Reader

/-!
# The file of the settings

The settings are kept in a TOML file.  Whatever the file leaves out has its usual value, and a file
that cannot be read, or gives anything a value of the wrong kind, counts as no file at all.
-/

namespace RunBoard

open RunBoard.Toml

/-- The name of the file, in the directory of the settings. -/
def settingsFileName : String := "config.toml"

namespace Settings

/-- A text. -/
def text? : Item → Option String
  | .string s => some s
  | _ => none

/-- A natural number below a bound. -/
def natural? (bound : Nat) : Item → Option Nat
  | .integer n => if 0 ≤ n ∧ n < bound then some n.toNat else none
  | _ => none

/-- The values of the named fields: by name from a table, and by position from an array.  Fields
that are not named are passed over, as are surplus positions. -/
def fields? (names : List String) : Item → Option (List (String × Item))
  | .openTable _ entries | .inlineTable entries => some entries
  | .array items => some (names.zip items)
  | .tables last before => some (names.zip ((last :: before).reverse.map (.openTable .header)))
  | _ => none

/-- The value of a field, or the usual one if it is left out. -/
def field {α : Type} (fields : List (String × Item)) (name : String) (read : Item → Option α)
    (usual : α) : Option α :=
  match fields.lookup name with
  | none => some usual
  | some item => read item

/-- Reads how the backend is reached. -/
def backend? (item : Item) : Option BackendSettings := do
  let fields ← fields? ["url", "token", "request_timeout_secs", "connect_timeout_secs"] item
  let usual := BackendSettings.default
  let seconds? := natural? 0x10000000000000000
  return {
    url := ← field fields "url" text? usual.url
    token := ← field fields "token" (fun i => (text? i).map some) usual.token
    requestTimeout := ← field fields "request_timeout_secs" seconds? usual.requestTimeout
    connectTimeout := ← field fields "connect_timeout_secs" seconds? usual.connectTimeout }

/-- Reads how runs are shown. -/
def display? (item : Item) : Option DisplaySettings := do
  let fields ← fields? ["default_per_page", "locale"] item
  let usual := DisplaySettings.default
  return {
    perPage := ← field fields "default_per_page" (natural? 0x100000000) usual.perPage
    locale := ← field fields "locale" text? usual.locale }

/-- Reads the settings of a document. -/
def ofDocument? (doc : Document) : Option Settings := do
  return {
    backend := ← field doc "backend" backend? .default
    display := ← field doc "ui" display? .default }

/-- The settings that a text gives. -/
def ofText (text : String) : Settings :=
  ((Document.read text).bind ofDocument?).getD .default

/-- The settings that the contents of a file give; none if there is no file that can be read. -/
def ofFile (contents : Option ByteArray) : Settings :=
  ((contents.bind String.fromUTF8?).map ofText).getD .default

end Settings

end RunBoard
