import ClusterFramework.Text.Decimal
import ClusterFramework.Text.Utf8

/-! The variables a program is started with. -/
namespace ClusterFramework

abbrev EnvironmentVariables := List (String × Octets)

namespace EnvironmentVariables

/-- The text of a variable; octets that are not UTF-8 count as not set. -/
def text? (env : EnvironmentVariables) (name : String) : Option String :=
  (env.lookup name).bind Utf8.decode?

def word? (env : EnvironmentVariables) (name : String) : Option UInt64 :=
  (env.text? name).bind fun s => (Text.naturalBelow? UInt64.size s.toList).map UInt64.ofNat

end EnvironmentVariables
end ClusterFramework
