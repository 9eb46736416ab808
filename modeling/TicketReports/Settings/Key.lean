import TicketReports.Text.Blank
import TicketReports.Text.Numeral
import TicketReports.Text.Split

set_option autoImplicit false

namespace TicketReports

namespace Settings

inductive Key where
  | bindAddress
  | externalAddress
  | shutdownTimeout
  | databaseUrl
  | historyLimit
  | pipelineTimeout
  | channelEndpoint
  | userEndpoint
  | incidentEndpoint
  | requestEndpoint
  | authToken
  | retryWaitMin
  | retryWaitMax
  | retryMax
  | requestTimeout
  | mailUrl
  | mailToken
  | messageStream
  | fromAddress
  | serviceDesk
  | reportsDir
  deriving DecidableEq, Repr

namespace Key

def all : List Key :=
  [.bindAddress, .externalAddress, .shutdownTimeout, .databaseUrl, .historyLimit, .pipelineTimeout,
    .channelEndpoint, .userEndpoint, .incidentEndpoint, .requestEndpoint, .authToken,
    .retryWaitMin, .retryWaitMax, .retryMax, .requestTimeout, .mailUrl, .mailToken, .messageStream,
    .fromAddress, .serviceDesk, .reportsDir]

def name : Key → String
  | .bindAddress => "HTTP_BIND_ADDRESS"
  | .externalAddress => "EXTERNAL_LOCATION_ADDRESS"
  | .shutdownTimeout => "HTTP_SHUTDOWN_TIMEOUT_SECONDS"
  | .databaseUrl => "DATABASE_URL"
  | .historyLimit => "JOB_HISTORY_LIMIT"
  | .pipelineTimeout => "PIPELINE_TIMEOUT_SECONDS"
  | .channelEndpoint => "CHANNEL_ENDPOINT_URI"
  | .userEndpoint => "USER_ENDPOINT_URI"
  | .incidentEndpoint => "INCIDENT_ENDPOINT_URI"
  | .requestEndpoint => "REQUEST_ENDPOINT_URI"
  | .authToken => "ASSERTION_TOKEN"
  | .retryWaitMin => "RETRY_WAIT_MIN_MS"
  | .retryWaitMax => "RETRY_WAIT_MAX_MS"
  | .retryMax => "RETRY_MAX"
  | .requestTimeout => "REQUEST_TIMEOUT_SECONDS"
  | .mailUrl => "POSTMARK_SERVER_URL"
  | .mailToken => "POSTMARK_SERVER_TOKEN"
  | .messageStream => "POSTMARK_MESSAGE_STREAM"
  | .fromAddress => "EMAIL_FROM_ADDRESS"
  | .serviceDesk => "SERVICE_DESK_EMAILS"
  | .reportsDir => "REPORTS_DIR"

def limit? : Key → Option Nat
  | .shutdownTimeout => some Text.limit64
  | .historyLimit => some Text.limit64
  | .pipelineTimeout => some Text.limit64
  | .retryWaitMin => some Text.limit64
  | .retryWaitMax => some Text.limit64
  | .retryMax => some Text.limit32
  | .requestTimeout => some Text.limit64
  | _ => none

end Key

structure Invalid where
  key : Key
  value : String
  reason : String
  deriving DecidableEq, Repr

def Invalid.message (invalid : Invalid) : String :=
  "invalid value '" ++ invalid.value ++ "' for " ++ invalid.key.name ++ ": " ++ invalid.reason

abbrev Lookup := String → Option String

def given (lookup : Lookup) (key : Key) : Option String :=
  (lookup key.name).filter fun text => !Text.allBlank text

def numeral (lookup : Lookup) (key : Key) (limit : Nat) : Except Invalid (Option Nat) :=
  match given lookup key with
  | none => .ok none
  | some value =>
    match Text.readNumeral limit (Text.trimmed value.toList) with
    | .ok n => .ok (some n)
    | .error error => .error { key, value, reason := error.message }

def positiveLimit (lookup : Lookup) : Except Invalid (Option Nat) := do
  let limit ← numeral lookup .historyLimit Text.limit64
  if limit = some 0 then
    .error { key := .historyLimit, value := "0", reason := "must be at least 1" }
  else .ok limit

def dropSlashes (address : String) : String :=
  String.ofList (address.toList.reverse.dropWhile (· == '/')).reverse

def recipients (text : String) : List String :=
  (((Text.splitAll ',' text.toList).map Text.trimmed).filter (!·.isEmpty)).map String.ofList

end Settings

end TicketReports
