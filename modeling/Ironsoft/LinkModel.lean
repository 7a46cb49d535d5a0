import Mathlib.Data.Int.Notation

/-!
# Link liveness

When a published "link is alive" is true: the poll that last found the link alive did so
within a timeout of a frame that had arrived in the session.
-/
namespace Ironsoft.LinkModel

inductive LinkEvent
  /-- a session has been opened -/
  | opened
  | frame (timeMs : ℤ)
  /-- a poll has found the link alive -/
  | alive (nowMs : ℤ)
  | published (linkAlive : Bool)
  deriving DecidableEq

open LinkEvent

/-- The time of the last frame of the session. -/
def lastFrame : List LinkEvent → Option ℤ
  | [] => none
  | opened :: _ => none
  | frame timeMs :: _ => some timeMs
  | _ :: older => lastFrame older

/-- The last poll of the session that found the link alive, and the last frame before it. -/
def lastAlive : List LinkEvent → Option (ℤ × Option ℤ)
  | [] => none
  | opened :: _ => none
  | alive nowMs :: older => some (nowMs, lastFrame older)
  | _ :: older => lastAlive older

def Backed (timeoutMs : ℤ) (history : List LinkEvent) : Prop :=
  ∃ nowMs timeMs, lastAlive history = some (nowMs, some timeMs) ∧ nowMs - timeMs ≤ timeoutMs

/-- Whatever has been published as alive was backed by a frame. -/
def Honest (timeoutMs : ℤ) (history : List LinkEvent) : Prop :=
  ∀ newer older, history = newer ++ published true :: older → Backed timeoutMs older

theorem honest_nil (timeoutMs : ℤ) : Honest timeoutMs [] := by
  intro newer older h
  simp at h

theorem Honest.cons {timeoutMs : ℤ} {history : List LinkEvent} (h : Honest timeoutMs history)
    {e : LinkEvent} (he : e = published true → Backed timeoutMs history) :
    Honest timeoutMs (e :: history) := by
  intro newer older hsplit
  cases newer with
  | nil =>
    obtain ⟨rfl, rfl⟩ := List.cons.inj hsplit
    exact he rfl
  | cons _ newer => exact h newer older (List.cons.inj hsplit).2

structure LinkView where
  connected : Bool
  sensorConnected : Bool
  udpLinkAlive : Bool
  linkAlive : Bool
  lastRxMs : ℤ
  history : List LinkEvent

/-- The flag that is published follows the sensor, and the sensor follows the frames. What
is set while there is no connection is reset before anything is published. -/
structure Linked (timeoutMs : ℤ) (v : LinkView) : Prop where
  reported : v.connected = true → v.linkAlive = true →
    v.sensorConnected = true ∧ v.udpLinkAlive = true
  opened : v.connected = true → v.udpLinkAlive = true → v.sensorConnected = true
  backed : v.connected = true → v.udpLinkAlive = true → Backed timeoutMs v.history
  lastRx : v.sensorConnected = true → ∀ timeMs, lastFrame v.history = some timeMs →
    v.lastRxMs = timeMs
  honest : Honest timeoutMs v.history

namespace Linked

variable {timeoutMs : ℤ} {v : LinkView}

theorem backed_of_linkAlive (h : Linked timeoutMs v) (hc : v.connected = true)
    (hl : v.linkAlive = true) : Backed timeoutMs v.history :=
  h.backed hc (h.reported hc hl).2

/-- Publishing the flag is honest. -/
theorem publish (h : Linked timeoutMs v) (hc : v.connected = true) :
    Linked timeoutMs { v with history := published v.linkAlive :: v.history } where
  reported := h.reported
  opened := h.opened
  backed := h.backed
  lastRx := h.lastRx
  honest := h.honest.cons fun he => h.backed_of_linkAlive hc (published.inj he)

/-- Deriving the flag from the sensor keeps it truthful. -/
theorem report (h : Linked timeoutMs v) :
    Linked timeoutMs { v with linkAlive := v.sensorConnected && v.udpLinkAlive } where
  reported _ hl := by simpa using hl
  opened := h.opened
  backed := h.backed
  lastRx := h.lastRx
  honest := h.honest

/-- A frame stores the time it arrives at. -/
theorem receive (h : Linked timeoutMs v) (timeMs : ℤ) :
    Linked timeoutMs { v with lastRxMs := timeMs, history := frame timeMs :: v.history } where
  reported := h.reported
  opened := h.opened
  backed := h.backed
  lastRx _ _ ht := Option.some.inj ht
  honest := h.honest.cons nofun

/-- A poll may set the flag shortly after a frame. -/
theorem found (h : Linked timeoutMs v) (hs : v.sensorConnected = true) {nowMs : ℤ}
    (hframe : v.connected = true →
      ∃ timeMs, lastFrame v.history = some timeMs ∧ nowMs - timeMs ≤ timeoutMs) :
    Linked timeoutMs { v with udpLinkAlive := true, history := alive nowMs :: v.history } where
  reported _ _ := ⟨hs, rfl⟩
  opened _ _ := hs
  backed hc _ := by
    obtain ⟨timeMs, hlast, hage⟩ := hframe hc
    exact ⟨nowMs, timeMs, by rw [lastAlive, hlast], hage⟩
  lastRx := h.lastRx
  honest := h.honest.cons nofun

/-- Taking the flag back needs no frame. -/
theorem lose (h : Linked timeoutMs v) :
    Linked timeoutMs
      { v with udpLinkAlive := false, linkAlive := v.sensorConnected && false } where
  reported _ hl := by simp at hl
  opened _ := nofun
  backed _ := nofun
  lastRx := h.lastRx
  honest := h.honest

/-- A session is opened where there is none; the flag is down then. -/
theorem openSession (h : Linked timeoutMs v) (hs : v.sensorConnected = false) (timeMs : ℤ) :
    Linked timeoutMs
      { v with
        sensorConnected := true, lastRxMs := timeMs, history := LinkEvent.opened :: v.history } where
  reported hc hl := absurd (hs.symm.trans (h.reported hc hl).1) Bool.false_ne_true
  opened _ _ := rfl
  backed hc hu := absurd (hs.symm.trans (h.opened hc hu)) Bool.false_ne_true
  lastRx _ := nofun
  honest := h.honest.cons nofun

/-- Without a sensor the time of the last frame is not kept. -/
theorem forget (h : Linked timeoutMs v) (hs : v.sensorConnected = false) (timeMs : ℤ) :
    Linked timeoutMs { v with lastRxMs := timeMs } where
  reported := h.reported
  opened := h.opened
  backed := h.backed
  lastRx hs' := absurd (hs.symm.trans hs') Bool.false_ne_true
  honest := h.honest

/-- Without sensor and flag there is nothing to back. -/
theorem unlinked (h : Honest timeoutMs v.history) (hs : v.sensorConnected = false)
    (hu : v.udpLinkAlive = false) (hl : v.linkAlive = false) : Linked timeoutMs v where
  reported _ hl' := absurd (hl.symm.trans hl') Bool.false_ne_true
  opened _ hu' := absurd (hu.symm.trans hu') Bool.false_ne_true
  backed _ hu' := absurd (hu.symm.trans hu') Bool.false_ne_true
  lastRx hs' := absurd (hs.symm.trans hs') Bool.false_ne_true
  honest := h

end Linked

end Ironsoft.LinkModel
