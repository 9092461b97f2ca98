import SoapWrap.Synthesis.Wrapper

namespace SoapWrap

structure Factory where
  name : String
  wrapper : String
  method : String
  /-- How many nulls the constructor of the wrapper is given. -/
  constructorArity : Nat
  deriving DecidableEq

namespace Factory

def ofWrapper (settings : Settings) (w : Wrapper) : Factory where
  name := w.qualifiedName ++ settings.factorySuffix
  wrapper := w.qualifiedName
  method := "create" ++ w.name
  constructorArity := 0

def typeDef (f : Factory) : TypeDef where
  name := f.name
  methods := [
    .ofConstructor [] [.return none],
    .ofInstance f.method [] (.named f.wrapper) [
      .allocate 0 f.wrapper (List.replicate f.constructorArity (.const .null)),
      .return (some (.local 0))]]

end Factory

end SoapWrap
