import TypedClients.Client
import TypedClients.Output

/-!
# Packages of client modules

The client modules of a folder form a package. Its package module imports every client of the
folder and offers them all under their names.
-/
namespace TypedClients

open TypedClients.Text TypedClients.Code

/-- The documentation of a client module. -/
def clientDocstring : String := "Generated API client. Do not edit by hand."

/-- The documentation of a package module. -/
def packageDocstring : String := "Generated API clients."

/-- A client module, documented. -/
def ClientModule.output (m : ClientModule) : OutputModule :=
  { body := m.body, path := m.path, docstring := some clientDocstring }

@[simp] theorem ClientModule.output_path (m : ClientModule) : m.output.path = m.path := by
  rw [output]

/-- The client modules of each folder, by folder, and by name inside a folder. -/
def packageGroups (modules : List ClientModule) : List (String × List ClientModule) :=
  ((modules.map (·.apiName)).eraseDups.mergeSort (· ≤ ·)).map fun api =>
    (api, (modules.filter (·.apiName == api)).mergeSort fun a b =>
      decide (a.moduleName ≤ b.moduleName))

/-- The package module of a folder. -/
def packageModule (apiName : String) (modules : List ClientModule) : OutputModule :=
  { body := modules.map (fun m =>
        .importFrom (some m.moduleName) (m.exports.map fun n => { name := n }) 1) ++
      [Client.offers (modules.flatMap (·.exports))]
    path := ((Path.ofString apiName).join (Path.ofString "__init__.py")).toString
    docstring := some packageDocstring }

/-- The package modules for client modules, one for each folder. -/
def packageModules (modules : List ClientModule) : List OutputModule :=
  (packageGroups modules).map fun (api, modules) => packageModule api modules

end TypedClients
