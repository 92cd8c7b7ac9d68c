import Telemetry.OrderedMap
import Telemetry.Text.Lowercase

/-!
# Carriers

The headers of a request that a span context travels in. A header is written and looked up under the
lowercase form of its name, so names that differ in case only are one header; a carrier that was filled
by other means may still hold names in any case, which are never found.
-/

namespace Telemetry

/-- The headers of a request, by name. -/
abbrev Carrier := OrderedMap String String

namespace Carrier

/-- The value of the header `name`. -/
def header? (carrier : Carrier) (name : String) : Option String :=
  carrier.get? (Text.lowercase name)

/-- The carrier with the header `name` set. -/
def setHeader (carrier : Carrier) (name value : String) : Carrier :=
  carrier.insert (Text.lowercase name) value

/-- Sets several headers, one after the other. -/
def setHeaders (carrier : Carrier) (headers : List (String × String)) : Carrier :=
  headers.foldl (fun carrier header => carrier.setHeader header.1 header.2) carrier

/-- **Setting a header changes exactly the headers of that name.** -/
theorem header?_setHeader (carrier : Carrier) (name other value : String) :
    (carrier.setHeader name value).header? other =
      if Text.lowercase name = Text.lowercase other then some value else carrier.header? other :=
  OrderedMap.get?_insert carrier _ _ value

end Carrier

end Telemetry
