/-
MMOServers.GatewayServer.RateLimitTheorems — what the rate limiter lets through.

`AllowPacket` counts the packets of a window. A window starts with the limiter
or with the first packet that arrives a second or more after the start of the
one before; it is not aligned with anything.

* `countP_run_le`: an interval of `k` seconds meets at most `k` starts and the
  window it begins in, so at most `k + 1` windows' worth of packets get through.
* `run_allows`: a window is the second after its start, so nothing is refused
  as long as no second has more arrivals than a window may have.
* `inspectHeader_limited`: the counter of a session stays small, since a session
  that is refused five times in a row is closed.
-/
import MMOServers.GatewayServer.ClientSession

namespace MMOServers

namespace Common.PacketRateLimiter

open SecurityConstants

/-! ## Arrivals -/

/-- The packets that arrive one after another, with the answers to them. -/
def run (r : PacketRateLimiter) : List Nat → List (Nat × Bool)
  | [] => []
  | now :: later => (now, (r.allowPacket now).1) :: run (r.allowPacket now).2 later

/-- The clock reading is in the `k` seconds from `a` on. -/
def inSeconds (a k now : Nat) : Bool := a ≤ now && now < a + k * 1000000000

/-- The packet is let through in the `k` seconds from `a` on. -/
def allowedIn (a k : Nat) (p : Nat × Bool) : Bool := p.2 && inSeconds a k p.1

theorem inSeconds_iff {a k now : Nat} :
    inSeconds a k now = true ↔ a ≤ now ∧ now < a + k * 1000000000 := by
  simp [inSeconds]

/-- The window is over, and the packet starts the next one. -/
theorem allowPacket_expired {r : PacketRateLimiter} {now : Nat}
    (h : r.windowStart + 1000000000 ≤ now) : r.allowPacket now = (true, ⟨now, 1⟩) := by
  have helapsed : rateWindowSeconds ≤ (now - r.windowStart) / 1000000000 := by
    unfold rateWindowSeconds
    omega
  simp [allowPacket, helapsed]

/-- The packet is counted in the window. -/
theorem allowPacket_counted {r : PacketRateLimiter} {now : Nat}
    (h : now < r.windowStart + 1000000000) :
    r.allowPacket now =
      (decide (r.packetCount + 1 ≤ maxPacketsPerSecond), ⟨r.windowStart, r.packetCount + 1⟩) := by
  have helapsed : ¬ rateWindowSeconds ≤ (now - r.windowStart) / 1000000000 := by
    unfold rateWindowSeconds
    omega
  rw [allowPacket, if_neg helapsed]
  refine Prod.ext ?_ rfl
  show (!decide (maxPacketsPerSecond < r.packetCount + 1)) = _
  rw [← decide_not]
  exact decide_eq_decide.mpr Nat.not_lt

/-! ## At most so many -/

/-- Nothing is let through in the interval when all packets arrive after it. -/
theorem countP_run_eq_zero (r : PacketRateLimiter) {a k : Nat} {arrivals : List Nat}
    (h : ∀ now ∈ arrivals, a + k * 1000000000 ≤ now) :
    (r.run arrivals).countP (allowedIn a k) = 0 := by
  induction arrivals generalizing r with
  | nil => rfl
  | cons now later ih =>
      obtain ⟨hnow, hlater⟩ := List.forall_mem_cons.mp h
      have hout : allowedIn a k (now, (r.allowPacket now).1) = false := by
        simp only [allowedIn, Bool.and_eq_false_iff]
        refine Or.inr (Bool.eq_false_iff.mpr fun hin => ?_)
        have := (inSeconds_iff.mp hin).2
        omega
      rw [run, List.countP_cons_of_neg (by simp [hout]), ih _ hlater]

/-- Once the interval has begun: what is left of the current window, and a full
    window for each second of the interval after it. -/
theorem countP_run_le_of_begun (a k : Nat) {arrivals : List Nat} (r : PacketRateLimiter)
    (m : Nat) (hm : a + k * 1000000000
      ≤ max a (r.windowStart + 1000000000) + m * 1000000000)
    (hbegun : ∀ now ∈ arrivals, a ≤ now) (hsorted : arrivals.Pairwise (· ≤ ·)) :
    (r.run arrivals).countP (allowedIn a k)
      ≤ (maxPacketsPerSecond - r.packetCount) + m * maxPacketsPerSecond := by
  induction arrivals generalizing r m with
  | nil => exact Nat.zero_le _
  | cons now later ih =>
      obtain ⟨hnow, hlater⟩ := List.forall_mem_cons.mp hbegun
      obtain ⟨hfirst, hsorted⟩ := List.pairwise_cons.mp hsorted
      by_cases hend : a + k * 1000000000 ≤ now
      · rw [countP_run_eq_zero r (by
          intro t ht
          rcases List.mem_cons.mp ht with rfl | ht
          · exact hend
          · exact Nat.le_trans hend (hfirst t ht))]
        exact Nat.zero_le _
      have hin : inSeconds a k now = true := inSeconds_iff.mpr ⟨hnow, by omega⟩
      by_cases hwindow : r.windowStart + 1000000000 ≤ now
      · -- a new window starts, in a second of the interval that is paid for
        obtain ⟨m, rfl⟩ : ∃ n, m = n + 1 := ⟨m - 1, by omega⟩
        have hrest := ih ⟨now, 1⟩ m (by
          show _ ≤ max a (now + 1000000000) + _
          omega) hlater hsorted
        rw [run, allowPacket_expired hwindow,
          List.countP_cons_of_pos (by simp [allowedIn, hin])]
        have hpos : 1 ≤ maxPacketsPerSecond := by decide
        rw [Nat.add_mul, Nat.one_mul]
        dsimp only at hrest ⊢
        omega
      · have hcounted := allowPacket_counted (Nat.lt_of_not_le hwindow)
        have hrest := ih ⟨r.windowStart, r.packetCount + 1⟩ m hm hlater hsorted
        rw [run, hcounted]
        dsimp only at hrest ⊢
        by_cases hfull : r.packetCount + 1 ≤ maxPacketsPerSecond
        · rw [List.countP_cons_of_pos (by simp [allowedIn, hin, hfull])]
          omega
        · rw [List.countP_cons_of_neg (by simp [allowedIn, hfull])]
          omega

theorem countP_run_le (r : PacketRateLimiter) (a k : Nat) {arrivals : List Nat}
    (hsorted : arrivals.Pairwise (· ≤ ·)) :
    (r.run arrivals).countP (allowedIn a k) ≤ maxPacketsPerSecond * (k + 1) := by
  induction arrivals generalizing r with
  | nil => exact Nat.zero_le _
  | cons now later ih =>
      by_cases hbegun : a ≤ now
      · have hall : ∀ t ∈ now :: later, a ≤ t := by
          intro t ht
          rcases List.mem_cons.mp ht with rfl | ht
          · exact hbegun
          · exact Nat.le_trans hbegun ((List.pairwise_cons.mp hsorted).1 t ht)
        have hle := countP_run_le_of_begun a k r k (by omega) hall hsorted
        rw [Nat.mul_succ, Nat.mul_comm maxPacketsPerSecond]
        omega
      · have hout : allowedIn a k (now, (r.allowPacket now).1) = false := by
          simp [allowedIn, inSeconds, hbegun]
        rw [run, List.countP_cons_of_neg (by simp [hout])]
        exact ih _ (List.pairwise_cons.mp hsorted).2

/-! ## No fewer than that -/

/-- The counter is at most the number of packets that arrived in the window, and
    those are few. -/
theorem run_allows (past : List Nat) {arrivals : List Nat} (r : PacketRateLimiter)
    (hcount : r.packetCount ≤ past.countP (inSeconds r.windowStart 1))
    (hstart : ∀ now ∈ arrivals, r.windowStart ≤ now) (hsorted : arrivals.Pairwise (· ≤ ·))
    (hfew : ∀ a, (past ++ arrivals).countP (inSeconds a 1) ≤ maxPacketsPerSecond) :
    ∀ p ∈ r.run arrivals, p.2 = true := by
  induction arrivals generalizing r past with
  | nil =>
      intro p hp
      cases hp
  | cons now later ih =>
      obtain ⟨hnow, hlater⟩ := List.forall_mem_cons.mp hstart
      obtain ⟨hfirst, hsorted⟩ := List.pairwise_cons.mp hsorted
      have hfew' : ∀ a, (past ++ [now] ++ later).countP (inSeconds a 1) ≤ maxPacketsPerSecond := by
        simpa using hfew
      rw [run]
      by_cases hwindow : r.windowStart + 1000000000 ≤ now
      · rw [allowPacket_expired hwindow]
        refine List.forall_mem_cons.mpr ⟨rfl, ih (past ++ [now]) ⟨now, 1⟩ ?_ hfirst hsorted hfew'⟩
        have hin : inSeconds now 1 now = true := inSeconds_iff.mpr ⟨Nat.le_refl _, by omega⟩
        rw [List.countP_append, List.countP_singleton, hin]
        exact Nat.le_add_left 1 _
      · have hin : inSeconds r.windowStart 1 now = true :=
          inSeconds_iff.mpr ⟨hnow, by omega⟩
        have hcount' : r.packetCount + 1
            ≤ (past ++ [now]).countP (inSeconds r.windowStart 1) := by
          rw [List.countP_append, List.countP_singleton, hin]
          exact Nat.add_le_add_right hcount 1
        have hroom : r.packetCount + 1 ≤ maxPacketsPerSecond := by
          have hpast : (past ++ [now]).countP (inSeconds r.windowStart 1)
              ≤ (past ++ [now] ++ later).countP (inSeconds r.windowStart 1) :=
            (List.prefix_append (past ++ [now]) later).sublist.countP_le
          exact Nat.le_trans hcount' (Nat.le_trans hpast (hfew' r.windowStart))
        rw [allowPacket_counted (Nat.lt_of_not_le hwindow)]
        refine List.forall_mem_cons.mpr ⟨decide_eq_true hroom, ?_⟩
        exact ih (past ++ [now]) ⟨r.windowStart, r.packetCount + 1⟩ hcount' hlater hsorted hfew'

/-- A limiter that was made at `start` lets through at most `k + 1` times the
    packets of a second in `k` seconds, and refuses none when no second has more
    than that. -/
theorem allowPacket_bounds (start : Nat) (arrivals : List Nat)
    (hsorted : (start :: arrivals).Pairwise (· ≤ ·)) :
    (∀ a k, (run ⟨start, 0⟩ arrivals).countP (allowedIn a k) ≤ maxPacketsPerSecond * (k + 1)) ∧
      ((∀ a, arrivals.countP (inSeconds a 1) ≤ maxPacketsPerSecond) →
        ∀ p ∈ run ⟨start, 0⟩ arrivals, p.2 = true) := by
  obtain ⟨hfirst, hsorted⟩ := List.pairwise_cons.mp hsorted
  exact ⟨fun a k => countP_run_le _ a k hsorted,
    fun hfew => run_allows [] _ (Nat.zero_le _) hfirst hsorted hfew⟩

/-- Three packets, the last one in a second window. -/
theorem allowPacket_bounds_threePackets :
    (run ⟨0, 0⟩ [1, 5, 1500000000]).countP (allowedIn 1 2) ≤ maxPacketsPerSecond * 3 ∧
      ∀ p ∈ run ⟨0, 0⟩ [1, 5, 1500000000], p.2 = true := by
  obtain ⟨hmost, hleast⟩ := allowPacket_bounds 0 [1, 5, 1500000000] (by decide)
  refine ⟨hmost 1 2, hleast fun a => ?_⟩
  exact Nat.le_trans List.countP_le_length (by decide)

end Common.PacketRateLimiter

/-! ## The counter of a session -/

namespace GatewayServer.ClientSession

open Common

variable {Key : Type}

/-- The window has counted no more than it may, apart from the packets refused
    since the last one that was let through. -/
def Limited (c : ClientSession Key) : Prop :=
  c.rateLimiter.packetCount ≤ SecurityConstants.maxPacketsPerSecond + c.rateViolationCount

theorem allowPacket_limited (r : PacketRateLimiter) {n : Nat} (now : Nat)
    (h : r.packetCount ≤ SecurityConstants.maxPacketsPerSecond + n) :
    (r.allowPacket now).2.packetCount ≤ SecurityConstants.maxPacketsPerSecond +
      if (r.allowPacket now).1 then 0 else n + 1 := by
  by_cases hwindow : r.windowStart + 1000000000 ≤ now
  · rw [PacketRateLimiter.allowPacket_expired hwindow]
    exact (by decide : 1 ≤ SecurityConstants.maxPacketsPerSecond)
  · rw [PacketRateLimiter.allowPacket_counted (Nat.lt_of_not_le hwindow)]
    by_cases hfull : r.packetCount + 1 ≤ SecurityConstants.maxPacketsPerSecond
    · simp [hfull]
    · simp only [hfull, decide_false, Bool.false_eq_true, if_false]
      omega

/-- A header keeps the counter limited, and the session that reads on after it
    was refused fewer than five times in a row. -/
theorem inspectHeader_limited {c : ClientSession Key} (hc : c.Limited)
    (hopen : c.rateViolationCount < SecurityConstants.maxRateViolations) (h : PacketHeader)
    (now : Nat) :
    (c.inspectHeader h now).2.Limited ∧
      ((c.inspectHeader h now).1 ≠ .disconnect →
        (c.inspectHeader h now).2.rateViolationCount < SecurityConstants.maxRateViolations) := by
  have hallow := allowPacket_limited c.rateLimiter now hc
  unfold inspectHeader
  dsimp only
  split
  · exact ⟨hc, fun _ => hopen⟩
  cases hallowed : (c.rateLimiter.allowPacket now).1 with
  | false =>
      rw [hallowed] at hallow
      simp only [Bool.not_false, if_true]
      split
      · exact ⟨hallow, fun h => absurd rfl h⟩
      · rename_i hfew
        exact ⟨hallow, fun _ => Nat.lt_of_not_le hfew⟩
  | true =>
      rw [hallowed] at hallow
      simp only [Bool.not_true, Bool.false_eq_true, if_false]
      repeat' split
      all_goals exact ⟨hallow, fun _ => (by decide : 0 < SecurityConstants.maxRateViolations)⟩

end GatewayServer.ClientSession

end MMOServers
