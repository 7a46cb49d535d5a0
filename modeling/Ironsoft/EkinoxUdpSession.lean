import Ironsoft.EkinoxWorld

/-!
# UDP session

`EkinoxUdpSession` in the build with sbgECom. A failing call returns the error text.
-/
namespace Ironsoft.Ekinox
open Effect

def modifySession (f : UdpSession → UdpSession) : M Unit :=
  atSensor.update fun l => { l with session := f l.session }

def resetLastRx : M ℤ := do
  let now ← monoNow
  modifySession fun s => { s with lastRxMs := now }
  return now

def onReceiveLog : M Unit := do
  let now ← resetLastRx
  emit (.sbg (.frame now))

def receiveLogs : ℕ → M Unit
  | 0 => pure ()
  | n + 1 => do
    onReceiveLog
    receiveLogs n

def sessionClose : M Unit := do
  if (← get).sensor.session.connected then
    emit (.sbg .ecomClose)
    emit (.sbg .interfaceDestroy)
    modifySession fun s => { s with connected := false }

/-- `open()`: `none` if it returns true. -/
def sessionOpen : M (Option Bytes) := do
  sessionClose
  modifySession fun s => { s with lastRxMs := 0 }
  let k := (← get).taken.udpOpen
  modify World.tookUdpOpen
  let outcome := (← read).udpOpen k
  if outcome.ipValid = false then return some (bytes "invalid ip")
  emit (.sbg (.interfaceCreate outcome.create))
  if outcome.create ≠ .noError then
    return some (bytes "sbgInterfaceUdpCreate: " ++ outcome.create.toText)
  emit (.sbg (.ecomInit outcome.init))
  if outcome.init ≠ .noError then
    emit (.sbg .interfaceDestroy)
    return some (bytes "sbgEComInit: " ++ outcome.init.toText)
  let _ ← resetLastRx
  modifySession fun s => { s with connected := true }
  emit .sessionOpened
  return none

def SbgErrorCode.tolerated (status : SbgErrorCode) : Prop :=
  status = noError ∨ status = notReady ∨ status = timeOut

instance (status : SbgErrorCode) : Decidable status.tolerated :=
  inferInstanceAs (Decidable (_ ∨ _ ∨ _))

/-- `poll()`: `none` if it returns true. -/
def sessionPoll : M (Option Bytes) := do
  if (← get).sensor.session.connected = false then return some (bytes "not connected")
  let k := (← get).taken.udpPoll
  modify World.tookUdpPoll
  let outcome := (← read).udpPoll k
  emit (.sbg .handleOneLog)
  receiveLogs outcome.frames
  if outcome.status.tolerated then return none
  return some (bytes "sbgEComHandleOneLog: " ++ outcome.status.toText)

def int64Max : ℤ := 9223372036854775807

def UdpSession.lastRxAgeMs (session : UdpSession) (nowMs : ℤ) : ℤ :=
  if session.lastRxMs = 0 then int64Max else nowMs - session.lastRxMs

end Ironsoft.Ekinox
