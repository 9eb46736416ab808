import TicketReports.Access.Retry
import TicketReports.Settings.Key

set_option autoImplicit false

namespace TicketReports

structure Settings where
  bindAddress : String := "0.0.0.0:8080"
  externalAddress : String := "http://localhost:8080"
  shutdownTimeout : Duration := .ofSeconds 30
  databaseUrl : Option String := none
  historyLimit : Nat := 10
  pipelineTimeout : Duration := .ofSeconds 3600
  channelEndpoint : String := "http://localhost:8081/api/v1/sub-spaces-by-app?appName=itsm"
  userEndpoint : String := "http://localhost:8081/api/v1/assets/user"
  incidentEndpoint : String := "http://localhost:8081/api/v1/assets/incident"
  requestEndpoint : String := "http://localhost:8081/api/v1/assets/k_request"
  authToken : Option String := none
  retry : RetryPolicy := .standard
  requestTimeout : Duration := .ofSeconds 30
  mailUrl : String := "https://api.postmarkapp.com/email/batch"
  mailToken : Option String := none
  messageStream : String := "outbound"
  fromAddress : String := ""
  serviceDesk : List String := []
  reportsDir : String
  deriving DecidableEq

namespace Settings

def defaults (temporary : String) : Settings := { reportsDir := temporary ++ "/xls-files" }

def load (temporary : String) (lookup : Lookup) : Except Invalid Settings := do
  let base := defaults temporary
  let text (key : Key) (otherwise : String) := (given lookup key).getD otherwise
  let duration (unit : Nat → Duration) (found : Option Nat) (otherwise : Duration) :=
    (found.map unit).getD otherwise
  let shutdown ← numeral lookup .shutdownTimeout Text.limit64
  let history ← positiveLimit lookup
  let pipeline ← numeral lookup .pipelineTimeout Text.limit64
  let waitMin ← numeral lookup .retryWaitMin Text.limit64
  let waitMax ← numeral lookup .retryWaitMax Text.limit64
  let retries ← numeral lookup .retryMax Text.limit32
  let request ← numeral lookup .requestTimeout Text.limit64
  .ok
    { bindAddress := text .bindAddress base.bindAddress
      externalAddress :=
        ((given lookup .externalAddress).map dropSlashes).getD base.externalAddress
      shutdownTimeout := duration .ofSeconds shutdown base.shutdownTimeout
      databaseUrl := given lookup .databaseUrl
      historyLimit := history.getD base.historyLimit
      pipelineTimeout := duration .ofSeconds pipeline base.pipelineTimeout
      channelEndpoint := text .channelEndpoint base.channelEndpoint
      userEndpoint := text .userEndpoint base.userEndpoint
      incidentEndpoint := text .incidentEndpoint base.incidentEndpoint
      requestEndpoint := text .requestEndpoint base.requestEndpoint
      authToken := given lookup .authToken
      retry :=
        { waitMin := duration .ofMillis waitMin base.retry.waitMin
          waitMax := duration .ofMillis waitMax base.retry.waitMax
          maxRetries := (retries.map UInt32.ofNat).getD base.retry.maxRetries }
      requestTimeout := duration .ofSeconds request base.requestTimeout
      mailUrl := text .mailUrl base.mailUrl
      mailToken := given lookup .mailToken
      messageStream := text .messageStream base.messageStream
      fromAddress := text .fromAddress base.fromAddress
      serviceDesk := ((given lookup .serviceDesk).map recipients).getD base.serviceDesk
      reportsDir := text .reportsDir base.reportsDir }

end Settings

end TicketReports
