/-
The concentration alerts of the IPS drift report.

The monitor compares each lot's share of NAV with the policy's
single-name limit. A security over the limit only as the sum of its lots
raises no alert: the alerts agree with the by-security totals exactly
when a security's largest lot falls on the same side of the limit as its
total.
-/
import Warehouse.Decision.Monitor
import Mathlib.Algebra.Order.BigOperators.Group.List

namespace Warehouse

variable {positions : List LotPositionView} {ips : InvestmentPolicyStatement}

/-- A security's market value over all its lots. -/
def securityMarketValue (positions : List LotPositionView)
    (securityId : String) : ℚ :=
  totalMarketValue (positions.filter (·.securityId = securityId))

/-- One lot of the security alone is worth more than `limit`. -/
def LotOver (positions : List LotPositionView) (securityId : String)
    (limit : ℚ) : Prop :=
  ∃ pos ∈ positions, pos.securityId = securityId
    ∧ ∃ marketValue ∈ pos.marketValue, limit < marketValue

/-- The report has an alert that a lot of the security raised. -/
def ConcentrationAlerted (report : IpsDriftReport)
    (positions : List LotPositionView) (ips : InvestmentPolicyStatement)
    (securityId : String) : Prop :=
  ∃ alert ∈ report.concentrationAlerts, ∃ pos ∈ positions,
    pos.securityId = securityId
      ∧ concentrationAlert (totalMarketValue positions)
          ips.concentrationLimitPct pos = some alert

-- ================================================================ the loop

/-- A position raises an alert exactly when its own value exceeds the
limit's share of NAV. -/
theorem concentrationAlert_isSome {totalMv cap : ℚ} (hpos : 0 < totalMv)
    (pos : LotPositionView) :
    (∃ alert, concentrationAlert totalMv cap pos = some alert)
      ↔ ∃ marketValue ∈ pos.marketValue, cap * totalMv < marketValue := by
  unfold concentrationAlert
  cases hmv : pos.marketValue with
  | none => simp
  | some marketValue =>
    have hdiv : cap < marketValue / totalMv ↔ cap * totalMv < marketValue :=
      lt_div_iff₀ hpos
    simp [hdiv]

/-- With a positive NAV the loop runs over every position. -/
theorem mem_concentrationAlerts (householdId : String)
    (hnav : 0 < totalMarketValue positions) (alert : String) :
    alert ∈ (buildIpsDriftReportFromViews householdId positions
        ips).concentrationAlerts
      ↔ ∃ pos ∈ positions, concentrationAlert (totalMarketValue positions)
          ips.concentrationLimitPct pos = some alert := by
  simp [buildIpsDriftReportFromViews, hnav]

/-- The alerts are per lot: one for each lot that is over on its own. -/
theorem concentrationAlerted_iff_lotOver (householdId : String)
    (hnav : 0 < totalMarketValue positions) (securityId : String) :
    ConcentrationAlerted
        (buildIpsDriftReportFromViews householdId positions ips) positions
        ips securityId
      ↔ LotOver positions securityId
          (ips.concentrationLimitPct * totalMarketValue positions) := by
  constructor
  · rintro ⟨alert, -, pos, hpos, hsec, halert⟩
    exact ⟨pos, hpos, hsec,
      (concentrationAlert_isSome hnav pos).mp ⟨alert, halert⟩⟩
  · rintro ⟨pos, hpos, hsec, hover⟩
    obtain ⟨alert, halert⟩ := (concentrationAlert_isSome hnav pos).mpr hover
    exact ⟨alert,
      (mem_concentrationAlerts householdId hnav alert).mpr
        ⟨pos, hpos, halert⟩,
      pos, hpos, hsec, halert⟩

-- ============================================================== the totals

/-- Over the limit only through the sum of several lots. -/
def OnlyTogetherOver (positions : List LotPositionView)
    (securityId : String) (limit : ℚ) : Prop :=
  limit < securityMarketValue positions securityId
    ∧ ∀ pos ∈ positions, pos.securityId = securityId →
      pos.marketValue.getD 0 ≤ limit

/-- One lot is over the limit, and short lots of the same security bring
the total back within. -/
def OnlyAloneOver (positions : List LotPositionView)
    (securityId : String) (limit : ℚ) : Prop :=
  securityMarketValue positions securityId ≤ limit
    ∧ ∃ pos ∈ positions, pos.securityId = securityId
      ∧ limit < pos.marketValue.getD 0

/-- Against a limit that is not negative an unmarked lot counts as
nothing. -/
theorem lotOver_iff {limit : ℚ} (hlimit : 0 ≤ limit) (securityId : String) :
    LotOver positions securityId limit
      ↔ ∃ pos ∈ positions, pos.securityId = securityId
        ∧ limit < pos.marketValue.getD 0 := by
  constructor
  · rintro ⟨pos, hpos, hsec, marketValue, hmv, hlt⟩
    rw [Option.mem_def] at hmv
    exact ⟨pos, hpos, hsec, by rwa [hmv, Option.getD_some]⟩
  · rintro ⟨pos, hpos, hsec, hlt⟩
    cases hmv : pos.marketValue with
    | none =>
      rw [hmv, Option.getD_none] at hlt
      linarith
    | some marketValue =>
      rw [hmv, Option.getD_some] at hlt
      exact ⟨pos, hpos, hsec, marketValue, hmv, hlt⟩

/-- In a book without short positions a lot is worth at most its
security: there only the sum of several lots can be missed. -/
theorem not_onlyAloneOver_of_long
    (hlong : ∀ pos ∈ positions, 0 ≤ pos.marketValue.getD 0)
    (securityId : String) (limit : ℚ) :
    ¬ OnlyAloneOver positions securityId limit := by
  rintro ⟨hwithin, pos, hpos, hsec, hlt⟩
  have hle : pos.marketValue.getD 0
      ≤ securityMarketValue positions securityId := by
    apply List.single_le_sum
    · intro value hvalue
      obtain ⟨lot, hlot, rfl⟩ := List.mem_map.mp hvalue
      exact hlong lot (List.mem_filter.mp hlot).1
    · refine List.mem_map.mpr ⟨pos, List.mem_filter.mpr ⟨hpos, ?_⟩, rfl⟩
      simpa using hsec
  linarith

/-- The alerts for a security agree with its total over all its lots
exactly when it is neither over the limit only together nor only alone. -/
theorem concentration_alert_iff (householdId : String)
    (positions : List LotPositionView) (ips : InvestmentPolicyStatement)
    (hnav : 0 < totalMarketValue positions) (securityId : String) :
    (ConcentrationAlerted
        (buildIpsDriftReportFromViews householdId positions ips) positions
        ips securityId
      ↔ securityMarketValue positions securityId / totalMarketValue positions
          > ips.concentrationLimitPct)
    ↔ ¬ OnlyTogetherOver positions securityId
          (ips.concentrationLimitPct * totalMarketValue positions)
      ∧ ¬ OnlyAloneOver positions securityId
          (ips.concentrationLimitPct * totalMarketValue positions) := by
  have hlimit : 0 ≤ ips.concentrationLimitPct * totalMarketValue positions :=
    mul_nonneg ips.concentrationFraction.1 hnav.le
  rw [concentrationAlerted_iff_lotOver householdId hnav, gt_iff_lt,
    lt_div_iff₀ hnav, lotOver_iff hlimit]
  constructor
  · intro h
    constructor
    · rintro ⟨hover, hwithin⟩
      obtain ⟨pos, hpos, hsec, hlt⟩ := h.mpr hover
      exact absurd (hwithin pos hpos hsec) (not_le.mpr hlt)
    · rintro ⟨hwithin, hlot⟩
      exact absurd (h.mp hlot) (not_lt.mpr hwithin)
  · rintro ⟨htogether, halone⟩
    constructor
    · intro hlot
      by_contra hwithin
      exact halone ⟨not_lt.mp hwithin, hlot⟩
    · intro hover
      by_contra hnone
      refine htogether ⟨hover, fun pos hpos hsec => ?_⟩
      by_contra hlt
      exact hnone ⟨pos, hpos, hsec, not_le.mp hlt⟩

-- ============================================================ concrete books

/-- A lot of `securityId` with this market value. -/
def valuedLot (lotId securityId : String) (marketValue : ℚ) :
    LotPositionView where
  lotId := lotId
  accountId := "acct_taxable"
  accountName := "Taxable"
  securityId := securityId
  ticker := some securityId
  securityName := securityId
  securityAssetClass := .equity
  quantity := 1
  costBasisPerShare := marketValue
  totalCostBasis := marketValue
  marketPrice := some marketValue
  marketValue := some marketValue
  unrealizedGain := some 0
  acquisitionDate := 739000
  isRestricted := false
  washSaleSubstituteGroup := none

/-- A policy without targets and the default single-name limit. -/
def singleNamePolicy : InvestmentPolicyStatement where
  ipsId := "ips_1"
  householdId := "hh_1"
  version := 1
  effectiveDate := "2026-01-01"
  allocationTargets := []
  concentrationFraction := isFraction_quarter
  liquidityFraction := isFraction_none
  turnoverFraction := isFraction_none

/-- One holding of 40 of a NAV of 100 in two lots of 20. -/
def splitHolding : List LotPositionView :=
  [valuedLot "lot_1" "AAPL" 20, valuedLot "lot_2" "AAPL" 20,
   valuedLot "lot_3" "MSFT" 20, valuedLot "lot_4" "GOOG" 20,
   valuedLot "lot_5" "AMZN" 20]

/-- The same holding in one lot. -/
def wholeHolding : List LotPositionView :=
  [valuedLot "lot_1" "AAPL" 40, valuedLot "lot_3" "MSFT" 20,
   valuedLot "lot_4" "GOOG" 20, valuedLot "lot_5" "AMZN" 20]

/-- In one lot the holding agrees with its total. -/
theorem concentration_alert_iff_whole :
    ConcentrationAlerted
        (buildIpsDriftReportFromViews "hh_1" wholeHolding singleNamePolicy)
        wholeHolding singleNamePolicy "AAPL"
      ↔ securityMarketValue wholeHolding "AAPL"
          / totalMarketValue wholeHolding
        > singleNamePolicy.concentrationLimitPct := by
  refine (concentration_alert_iff "hh_1" wholeHolding singleNamePolicy
    (by decide +kernel) "AAPL").mpr ⟨?_, ?_⟩
  · rintro ⟨-, hwithin⟩
    have h := hwithin (valuedLot "lot_1" "AAPL" 40) (by simp [wholeHolding])
      rfl
    exact absurd h (by decide +kernel)
  · apply not_onlyAloneOver_of_long
    decide +kernel

/-- Split in two, 40% of NAV in one name raises no alert at a limit of
25%. -/
theorem splitHolding_silent :
    ¬ (ConcentrationAlerted
        (buildIpsDriftReportFromViews "hh_1" splitHolding singleNamePolicy)
        splitHolding singleNamePolicy "AAPL"
      ↔ securityMarketValue splitHolding "AAPL"
          / totalMarketValue splitHolding
        > singleNamePolicy.concentrationLimitPct) := by
  have hsilent : (buildIpsDriftReportFromViews "hh_1" splitHolding
      singleNamePolicy).concentrationAlerts = [] := by decide +kernel
  intro h
  obtain ⟨alert, halert, -⟩ := h.mpr (by decide +kernel)
  rw [hsilent] at halert
  cases halert

end Warehouse
