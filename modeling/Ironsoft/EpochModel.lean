import Mathlib.Data.Nat.Notation

/-!
# Data of an epoch

A log, newest entry first, from which a reader keeps the last data. Some entries clear what is
kept. If the epoch does not change while something is kept, what is kept is the last data of the
epoch that the log has come to.
-/
namespace Ironsoft.EpochModel

structure Channel (ε : Type) where
  epoch : ε → ℕ
  clears : ε → Bool
  data : ε → Bool

namespace Channel

variable {ε β : Type} (c : Channel ε)

/-- Something is kept. -/
def live : List ε → Bool
  | [] => false
  | e :: log => if c.clears e then false else c.data e || live log

def cached (value : ε → Option β) : List ε → Option β
  | [] => none
  | e :: log => if c.clears e then none else (value e).or (cached value log)

/-- The last value of epoch `n`. -/
def latest (value : ε → Option β) (n : ℕ) (log : List ε) : Option β :=
  log.findSome? fun e => if c.epoch e = n then value e else none

/-- The epoch does not change while something is kept. -/
def Steady : List ε → Prop
  | [] => True
  | e :: log => (c.live log = true → ∃ e', log.head? = some e' ∧ c.epoch e' = c.epoch e) ∧ Steady log

variable {c}

theorem live_of_cached {value : ε → Option β} (hvalue : ∀ e b, value e = some b → c.data e = true)
    {log : List ε} {b : β} (h : c.cached value log = some b) : c.live log = true := by
  induction log with
  | nil => exact absurd h (by simp [cached])
  | cons e log ih =>
    simp only [cached] at h
    by_cases hc : c.clears e = true
    · simp [hc] at h
    · rw [if_neg hc, Option.or_eq_some_iff] at h
      simp only [live, if_neg hc, Bool.or_eq_true]
      exact h.imp (hvalue e b) fun h => ih h.2

theorem Steady.of_append {later log : List ε} (h : c.Steady (later ++ log)) : c.Steady log := by
  induction later with
  | nil => exact h
  | cons e later ih => exact ih h.2

/-- What is kept is the last data of the epoch of the newest entry. -/
theorem latest_of_cached {value : ε → Option β} (hvalue : ∀ e b, value e = some b → c.data e = true)
    {e : ε} {log : List ε} {b : β} (hs : c.Steady (e :: log)) (h : c.cached value (e :: log) = some b) :
    c.latest value (c.epoch e) (e :: log) = some b := by
  induction log generalizing e with
  | nil =>
    simp only [cached, Option.or_none] at h
    by_cases hc : c.clears e = true
    · simp [hc] at h
    · rw [if_neg hc] at h
      simp [latest, h]
  | cons e' log ih =>
    rw [cached] at h
    by_cases hc : c.clears e = true
    · simp [hc] at h
    rw [if_neg hc, Option.or_eq_some_iff] at h
    obtain h | ⟨hnone, h⟩ := h
    · simp [latest, h]
    · obtain ⟨e'', hhead, hepoch⟩ := hs.1 (live_of_cached hvalue h)
      obtain rfl : e' = e'' := by simpa using hhead
      have hold := ih hs.2 h
      rw [hepoch] at hold
      rw [latest, List.findSome?_cons, if_pos rfl, hnone]
      exact hold

theorem live_append {later log : List ε} (hl : c.live log = true)
    (hc : ∀ e ∈ later, c.clears e = false) : c.live (later ++ log) = true := by
  induction later with
  | nil => exact hl
  | cons e later ih =>
    have hrest := ih fun x hx => hc x (List.mem_cons_of_mem _ hx)
    have he := hc e (by simp)
    simp [live, he, hrest]

/-- Entries that clear nothing belong to the epoch of what is kept. -/
theorem epoch_of_live {later log : List ε} {e e' : ε} (hs : c.Steady (later ++ e :: log))
    (hl : c.live (e :: log) = true) (hc : ∀ x ∈ later, c.clears x = false)
    (hhead : (later ++ e :: log).head? = some e') : c.epoch e' = c.epoch e := by
  induction later generalizing e' with
  | nil =>
    obtain rfl : e = e' := by simpa using hhead
    rfl
  | cons x later ih =>
    obtain rfl : x = e' := by simpa using hhead
    have hc' : ∀ x ∈ later, c.clears x = false := fun y hy => hc y (List.mem_cons_of_mem _ hy)
    obtain ⟨y, hy, hepoch⟩ := hs.1 (live_append hl hc')
    rw [← hepoch]
    exact ih hs.2 hc' hy

end Channel

end Ironsoft.EpochModel
