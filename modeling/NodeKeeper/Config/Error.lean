/-
# What can be wrong with a configuration
-/
namespace NodeKeeper

inductive ConfigError where
  /-- the named settings file does not exist -/
  | missingFile (path : String)
  /-- the settings file cannot be read as text -/
  | unreadableFile (path : String)
  /-- the settings file does not hold settings -/
  | malformedFile (path : String)
  | missingValue (field : String)
  | invalidUrl (field value : String)
  | invalidValue (field reason : String)
  /-- the file of variables is malformed -/
  | malformedEnvFile
  deriving DecidableEq, Repr

def ConfigError.message : ConfigError → String
  | .missingFile path => "configuration file missing: " ++ path
  | .unreadableFile path => "failed to read configuration " ++ path
  | .malformedFile path => "failed to parse configuration " ++ path
  | .missingValue field => "required setting " ++ field ++ " is not configured"
  | .invalidUrl field value => "invalid URL for " ++ field ++ ": '" ++ value ++ "'"
  | .invalidValue field reason => "invalid value for " ++ field ++ ": " ++ reason
  | .malformedEnvFile => "malformed environment file"

end NodeKeeper
