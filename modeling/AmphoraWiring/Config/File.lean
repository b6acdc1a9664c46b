import AmphoraWiring.Codec.Model
import AmphoraWiring.Files.Basic

/-!
Settings from a file.
-/
namespace AmphoraWiring

inductive ConfigError where
  | read (path : String) (cause : ReadFailure)
  | parse (path : String) (cause : DecodeError)
deriving DecidableEq, Repr

namespace ConfigError

def message : ConfigError → String
  | .read path cause => "failed to read config " ++ path ++ ": " ++ cause.message
  | .parse path cause => "invalid config " ++ path ++ ": " ++ cause.message

/-- The error and the one that caused it. -/
def chain : ConfigError → List String
  | .read path cause => [message (.read path cause), cause.message]
  | .parse path cause => [message (.parse path cause), cause.message]

end ConfigError

/-- The settings in a file, of which reading gave `content`. -/
def Config.ofFile (path : String) (content : Except ReadFailure String) :
    Except ConfigError Config :=
  match content with
  | .error cause => .error (.read path cause)
  | .ok s => (Config.codec.ofText s).mapError (.parse path)

end AmphoraWiring
