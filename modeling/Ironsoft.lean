import Ironsoft.EkinoxAcks
import Ironsoft.EkinoxPublishes
import Ironsoft.EkinoxPresence
import Ironsoft.EkinoxLink
import Ironsoft.EkinoxFailures
import Ironsoft.EkinoxConnect
import Ironsoft.EkinoxJsonSafety
import Ironsoft.EkinoxDialogue
import Ironsoft.EkinoxHonesty
import Ironsoft.EkinoxAgreement
import Ironsoft.EkinoxTransience
import Ironsoft.EkinoxSensorFlags
import Ironsoft.EkinoxShutdown
import Ironsoft.EkinoxRxTimeout
import Ironsoft.EkinoxAdmission
import Ironsoft.EkinoxApiRecovery
import Ironsoft.EkinoxBackoff
import Ironsoft.EkinoxFlapping
import Ironsoft.BackendAnswers
import Ironsoft.EkinoxLiveness
import Ironsoft.ServicesAgreement
import Ironsoft.EkinoxIsolation
import Ironsoft.GuiPings
import Ironsoft.GuiControls
import Ironsoft.GuiSettles
import Ironsoft.ServiceShown
import Ironsoft.EkinoxRxStreaks
import Ironsoft.EkinoxBackoffRange
import Ironsoft.EkinoxMirror
import Ironsoft.EkinoxSanitize
import Ironsoft.EkinoxPaths
import Ironsoft.EkinoxMarker
import Ironsoft.EkinoxStaleness
import Ironsoft.EkinoxStamps
import Ironsoft.EkinoxSessionPairing
import Ironsoft.EkinoxConversation
import Ironsoft.EkinoxHeartbeats
import Ironsoft.EkinoxPollPacing
import Ironsoft.BackendTurns
import Ironsoft.BackendRounds
import Ironsoft.EkinoxArrival
import Ironsoft.EkinoxLoading
import Ironsoft.SharedConfig
import Ironsoft.BackendShown
import Ironsoft.GuiStops
