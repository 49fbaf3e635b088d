import HomeHub.Yaml.Decode

/-!
What is wrong with a section of the configuration.
-/

namespace HomeHub

inductive ConfigError where
  | parse (domain : String) (error : Decoding.Error)
  | invalidValue (key reason : String)

def ConfigError.message : ConfigError → String
  | .parse domain error =>
    "failed to parse " ++ domain ++ " configuration: " ++ Yaml.errorMessage error
  | .invalidValue key reason => "invalid configuration value for '" ++ key ++ "': " ++ reason

end HomeHub
