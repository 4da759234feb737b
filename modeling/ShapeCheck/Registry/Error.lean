namespace ShapeCheck

inductive RegistryError
  | duplicateName (name : String)
  | notFound (name : String)
  deriving DecidableEq

def RegistryError.message : RegistryError → String
  | .duplicateName name => "runtype '" ++ name ++ "' already registered"
  | .notFound name => "runtype '" ++ name ++ "' not found"

end ShapeCheck
