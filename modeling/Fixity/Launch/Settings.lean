/-
This file puts together the settings of a launch from the command line and the
environment. What the command line gives counts before the environment, and that
before the default; numbers of the environment are read even where they do not
count.
-/

import Fixity.Catalog.Registry
import Fixity.Launch.CommandLine
import Fixity.Launch.Obstacle
import Fixity.Storage.Bucket

namespace Fixity.Launch

/-! ### Environments -/

/-- The variables of an environment, as bytes. -/
abbrev Environment := String → Option (List UInt8)

namespace Environment

/-- The text of a variable; one that is not set or holds no text is passed over. -/
def text? (environment : Environment) (name : String) : Option String := do
  let bytes ← environment name
  return String.ofList (← Text.Utf8.decode? bytes)

/-- The number in a variable, or the default where it is not set. -/
def number (environment : Environment) (name : String) (range : Text.IntegerRange) (default : Int) :
    Except Obstacle Int :=
  match environment name with
  | none => .ok default
  | some bytes =>
    match Text.Utf8.decode? bytes with
    | none => .error (.brokenVariable name bytes)
    | some text =>
      match Text.readInteger range text with
      | .ok value => .ok value
      | .error fault => .error (.malformedVariable name (String.ofList text) fault)

/-- The text of the first of some variables that is set and holds text. -/
def firstText (environment : Environment) (names : List String) : String :=
  (names.findSome? environment.text?).getD ""

/-- The proxies that the environment names. Where a request is being served its fields are in the
environment, too, and then none are taken from there. -/
def proxies (environment : Environment) : Http.Proxies :=
  if (environment "REQUEST_METHOD").isSome then {}
  else
    .ofTexts (environment.firstText ["ALL_PROXY", "all_proxy"])
      (environment.firstText ["HTTP_PROXY", "http_proxy"])
      (environment.firstText ["HTTPS_PROXY", "https_proxy"])
      (environment.firstText ["NO_PROXY", "no_proxy"])

end Environment

/-! ### Settings -/

/-- The settings of a launch. -/
structure Settings where
  registryUrl : String
  registryApiVersion : String
  registryApiUser : String
  registryApiKey : String
  registryTimeoutSeconds : Nat
  bucketsFile : Option String
  maxDays : Int64
  isEndToEndTest : Bool
deriving Repr, DecidableEq

namespace Settings

/-- The days within which a file is not checked again, unless something else is said. -/
def usualMaxDays : Int := 90

/-- The days, if they are not negative: a negative number would put off every check. -/
def checkedDays (days : Int64) : Except Obstacle Int64 :=
  if 0 ≤ days then .ok days else .error (.negativeDays days)

/-- The settings of a command line in an environment. -/
def assemble (line : CommandLine) (environment : Environment) : Except Obstacle Settings := do
  let timeout ← environment.number "FIXITY_REGISTRY_TIMEOUT_SECS" .unsigned64 60
  let days ← environment.number "MAX_DAYS_SINCE_LAST_FIXITY" .signed64 usualMaxDays
  let maxDays ← checkedDays (line.maxDays.getD (Int64.ofInt days))
  return {
    registryUrl := line.registryUrl.getD
      ((environment.text? "FIXITY_REGISTRY_URL").getD "http://localhost:8080")
    registryApiVersion := (environment.text? "FIXITY_REGISTRY_API_VERSION").getD "v3"
    registryApiUser := (environment.text? "FIXITY_REGISTRY_API_USER").getD ""
    registryApiKey := (environment.text? "FIXITY_REGISTRY_API_KEY").getD ""
    registryTimeoutSeconds := timeout.toNat
    bucketsFile := line.bucketsFile.or (environment.text? "FIXITY_BUCKETS_FILE")
    maxDays
    isEndToEndTest := environment.text? "FIXITY_E2E" = some "true" }

/-- How the catalog is reached. -/
def registry (settings : Settings) : Catalog.Registry :=
  { baseUrl := settings.registryUrl
    apiVersion := settings.registryApiVersion
    apiUser := settings.registryApiUser
    apiKey := settings.registryApiKey
    timeoutSeconds := settings.registryTimeoutSeconds }

end Settings

/-! ### Files -/

/-- What reading a file gives. -/
abbrev FileReader := String → Except FileFault (List UInt8)

/-- The text of a file. -/
def FileReader.text (reader : FileReader) (path : String) : Except FileFault String := do
  match Text.Utf8.decode? (← reader path) with
  | some text => return String.ofList text
  | none => .error .notText

/-- The buckets that a file lists; without a file there are none. -/
def loadBuckets (reader : FileReader) : Option String → Except Obstacle (List Storage.Bucket)
  | none => .ok []
  | some path =>
    match reader.text path with
    | .error fault => .error (.unreadableBuckets path fault)
    | .ok text =>
      match Json.ofString? text >>= Storage.Bucket.listOfJson? with
      | some buckets => .ok buckets
      | none => .error (.malformedBuckets path)

/-! ### The address of the service -/

/-- The address that the service is to listen at. -/
def ServeOptions.address (options : ServeOptions) (environment : Environment) :
    Except Obstacle String := do
  let host := options.host.getD ((environment.text? "FIXITY_HOST").getD "0.0.0.0")
  let port ← match options.port with
    | some port => pure (Int.ofNat port.toNat)
    | none => environment.number "FIXITY_PORT" .unsigned16 3000
  return host ++ ":" ++ String.ofList (Text.writeInt port)

end Fixity.Launch
