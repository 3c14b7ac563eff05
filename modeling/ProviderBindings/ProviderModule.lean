import ProviderBindings.Identifier
import ProviderBindings.Network

/-! # The generated module

The text of a module that declares one provider per network and hands each of them
out by a function:

    opening
        static ref ONE_PROVIDER: type = create_retry_client("url", units)...;
        static ref TWO_PROVIDER: type = create_retry_client("url", units)...;
    }

    pub fn get_one_provider() -> type {
        ONE_PROVIDER.clone()
    }

    pub fn get_two_provider() -> type {
        TWO_PROVIDER.clone()
    }

All declarations stand inside one container, which is closed before the first
function begins. Networks keep their order, and names are not checked here: two
networks of one name give two definitions of one name. Every value is copied as it
is, so it is for the checks to keep an address from ending its literal. -/
namespace ProviderBindings.ProviderModule

/-- The type of a shared provider. -/
def providerType : String := "Arc<Provider<RetryClient<Http>>>"

/-- The lines before the first declaration. The last one opens the container. -/
def opening : List String :=
  ["/// THIS IS A GENERATED FILE. DO NOT MODIFY MANUALLY.",
   "///",
   "/// This file was auto generated by netbindgen.",
   "/// Any manual changes to this file will be overwritten.",
   "",
   "use ethers::providers::\x7bProvider, Http, RetryClient\x7d;",
   "use rindexer_core::lazy_static;",
   "use rindexer_core::provider::create_retry_client;",
   "use std::sync::Arc;",
   "",
   "lazy_static! \x7b"]

/-- The line that closes the container. -/
def closing : String := "\x7d"

/-- A text as a line of the module. -/
def line (text : String) : String := text ++ "\n"

/-- The bound on the work per second as an optional number. -/
def boundLiteral (units : Value) : Except Fault String :=
  if units.isPresent then return "Some(" ++ (← units.text) ++ ")" else return "None"

/-- A declaration, from the parts that differ between networks. -/
def declarationOf (storage url units : String) : String :=
  "    static ref " ++ storage ++ ": " ++ providerType ++ " = create_retry_client(\"" ++ url ++
    "\", " ++ units ++ ").expect(\"Error creating provider\");"

/-- An accessor function, from the parts that differ between networks. -/
def accessorOf (accessor storage : String) : String :=
  line ("pub fn " ++ accessor ++ "() -> " ++ providerType ++ " \x7b") ++
    line ("    " ++ storage ++ ".clone()") ++ "\x7d"

/-- The declaration of a network's shared provider. -/
def declaration (n : Network) : Except Fault String := do
  let name ← Identifier.nameText n.name
  let units ← boundLiteral n.computeUnits
  return declarationOf (Identifier.storage name) (← n.url.text) units

/-- The function that hands out a network's provider. -/
def accessorFunction (n : Network) : Except Fault String := do
  let name ← Identifier.nameText n.name
  return accessorOf (Identifier.accessor name) (Identifier.storage name)

/-- The module, from its declarations and its accessor functions. -/
def assemble (declarations accessors : List String) : String :=
  String.join (opening.map line) ++ String.join (declarations.map line) ++ line closing ++
    String.join (accessors.map fun accessor => line "" ++ line accessor)

/-- The text of the module for a list of networks. -/
def generate (networks : List Network) : Except Fault String := do
  let declarations ← networks.mapM declaration
  let accessors ← networks.mapM accessorFunction
  return assemble declarations accessors

end ProviderBindings.ProviderModule
