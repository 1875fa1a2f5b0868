import DatabaseOperator.Url.Basic

/-!
# Addresses of control planes

- `isWebAddress`: an address that the operator takes for the address of a
  control plane.
- `baseOf`: an address that paths can be put after.
-/

namespace DatabaseOperator

/-- An address names a scheme that the operator speaks, in lower case. -/
def isWebAddress (address : String) : Bool :=
  "https://".toList.isPrefixOf address.toList
    || "http://".toList.isPrefixOf address.toList

/-- An address without the slashes at its end. -/
def baseOf (address : String) : String :=
  String.ofList ((address.toList.reverse.dropWhile (· = '/')).reverse)

end DatabaseOperator
