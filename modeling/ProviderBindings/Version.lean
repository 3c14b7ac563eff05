/-! # The version of the program -/
namespace ProviderBindings

/-- The version of the program. -/
def version : String := "0.1.0"

end ProviderBindings
