namespace DeployCheck

inductive VerificationError
  /-- The label holds no `v`, three numbers and a sign. -/
  | malformedVersion (label : String)
  /-- The compiler could not be found or installed. -/
  | compilerLoad (version reason : String)
  /-- The compiler could not be run, or its output is no artifact map. -/
  | compileOutput (reason : String)
  /-- The compiler refused the sources. -/
  | compilationFailed (lines : List String)
  /-- The compiler produced no contract under this key. -/
  | contractNotFound (key : String)
  /-- The deployed code could not be fetched. -/
  | chainFetch (address reason : String)
  /-- A bytecode is not an even run of hexadecimal digits. -/
  | invalidBytecode (origin reason : String)
  deriving DecidableEq, Repr, Inhabited

namespace VerificationError

def message : VerificationError → String
  | malformedVersion label => "Malformed compiler version string: '" ++ label ++ "'"
  | compilerLoad version reason => "Failed to load compiler " ++ version ++ ": " ++ reason
  | compileOutput reason => "Compiler output error: " ++ reason
  | compilationFailed lines => "Compilation failed: " ++ "; ".intercalate lines
  | contractNotFound key => "Contract '" ++ key ++ "' not found in compiler output"
  | chainFetch address reason => "Failed to fetch code for " ++ address ++ ": " ++ reason
  | invalidBytecode origin reason => "Invalid " ++ origin ++ " bytecode: " ++ reason

/-- The failure came from the loader, the compiler or the node and not from what the caller gave. -/
def isExternal : VerificationError → Bool
  | compilerLoad .. | compileOutput .. | chainFetch .. => true
  | _ => false

end VerificationError

end DeployCheck
