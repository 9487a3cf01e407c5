import DeployCheck.Error
namespace DeployCheck

inductive CommandError
  | verification (error : VerificationError)
  | notVerified (contract address : String)
  /-- The sources do not form a tree that can be compiled. -/
  | source (reason : String)
  | unreadable (path reason : String)
  | registry (reason : String)
  | config (reason : String)
  /-- A setting has a value that cannot be used. -/
  | setting (reason : String)
  | noHome
  | io (reason : String)
  | serialization (reason : String)
  | other (reason : String)
  deriving DecidableEq, Repr

namespace CommandError

def message : CommandError → String
  | verification error => error.message
  | notVerified contract address =>
    "Contract " ++ contract ++ " at " ++ address ++ " does not match the supplied sources"
  | source reason => "Source error: " ++ reason
  | unreadable path reason => "Failed to read source '" ++ path ++ "': " ++ reason
  | registry reason => "Registry error: " ++ reason
  | config reason => "Configuration error: " ++ reason
  | setting reason => "Invalid configuration: " ++ reason
  | noHome => "Home directory not found"
  | io reason => "IO error: " ++ reason
  | serialization reason => "Serialization error: " ++ reason
  | other reason => reason

end CommandError

end DeployCheck
