/-
Render a frozen bundle to audience-specific Markdown
(`reporting/report_writer/render.py`).

The exhibits of the other planes' reports, D and E of the internal pack,
are a parameter, as those reports are in the bundle.

Each section is a function of the bundle, and the packs are lists of
sections joined by line breaks. A figure that is missing has a text of its
own, so rendering cannot fail. Amounts are rounded for display only, to
cents, to four decimals, or to two of a percentage.
-/
import Warehouse.Reporting.Writer

namespace Warehouse

open Lib

variable {A R : Type}

/-- `"\n".join(lines)`. -/
def joinLines (lines : List String) : String := "\n".intercalate lines

/-- The labels of the first two tax scenarios; the others are numbered. -/
def taxScenarioLabels : List String := ["baseline", "niit_overlay"]

/-- `_fmt_money`: two decimals, grouped by thousands. -/
def fmtMoney (value : ℚ) : String := "$" ++ formatGrouped 2 value

/-- The after-tax return as its cell shows it. -/
def afterTaxDisplay : Option ℚ → String
  | none => "n/a"
  | some value => formatFixed 4 value

/-- `_fmt_ratio`: four decimals. -/
def fmtRatio (value : ℚ) : String := formatFixed 4 value

/-- `_fmt_pct`: two decimals of a percentage. -/
def fmtPct (value : ℚ) : String := formatPercent 2 value

/-- The cells of a comparison figure: prior, and signed change. -/
def deltaDisplay (delta : Option ComparisonDelta) (fmt : ℚ → String) :
    String × String :=
  match delta with
  | none => ("n/a", "n/a")
  | some delta =>
      match delta.prior with
      | none => ("n/a", "n/a")
      | some prior =>
          match delta.absDelta with
          | none => (fmt prior, "n/a")
          | some absDelta =>
              let sign := if absDelta ≥ 0 then "+" else "-"
              let pct :=
                match delta.pctDelta with
                | none => ""
                | some pctDelta => " (" ++ formatSignedPercent 2 pctDelta ++ ")"
              (fmt prior, sign ++ fmt |absDelta| ++ pct)

/-- `_comparison_map`: the deltas by label, a repeated label keeping its last. -/
def comparisonMap (deltas : Option (List ComparisonDelta)) :
    Dict String ComparisonDelta :=
  Dict.ofPairs ((deltas.getD []).map fun d => (d.label, d))

-- ============================================================== front matter

/-- The audience as the front matter spells it. -/
def ReportAudience.value : ReportAudience → String
  | internal => "internal"
  | external => "external"

/-- `window`: the reporting window of the internal pack. -/
def reportingWindow (period : ReportPeriod) (asOf : Date) : String :=
  let windowEnd := isoformat (period.endDate.getD asOf)
  match period.startDate with
  | some start => isoformat start ++ " to " ++ windowEnd
  | none => "through " ++ windowEnd

/-- The fields of `_yaml_front_matter`, in its order. -/
def frontMatterFields (bundle : ReportBundle A R) (audience : ReportAudience)
    (classification : String) : List (String × String) :=
  [("title", "Household Report — " ++ bundle.householdId),
   ("date", isoformat bundle.asOfDate),
   ("audience", audience.value),
   ("classification", classification),
   ("period", bundle.period.label),
   ("snapshot_id", bundle.snapshotId)]
  ++ (if audience = .internal then
      [("reporting_window", reportingWindow bundle.period bundle.asOfDate)]
    else [])

/-- `_yaml_front_matter`: one `key: value` line a field, between two rules. -/
def yamlFrontMatter (bundle : ReportBundle A R) (audience : ReportAudience)
    (classification : String) : String :=
  joinLines (["---"]
    ++ (frontMatterFields bundle audience classification).map
      (fun (key, value) => key ++ ": " ++ value)
    ++ ["---"])

-- ================================================================== sections

/-- One money line of the performance table, with its prior and delta cells. -/
def moneyRow (deltas : Dict String ComparisonDelta) (label key : String)
    (value : ℚ) : String :=
  let cells := deltaDisplay (deltas.get? key) fmtMoney
  "| " ++ label ++ " | " ++ fmtMoney value ++ " | " ++ cells.1 ++ " | "
    ++ cells.2 ++ " |"

/-- `_performance_table`: the money lines and the after-tax return. -/
def performanceTable (bundle : ReportBundle A R) : String :=
  match bundle.performance with
  | none => "_Performance data unavailable._\n"
  | some perf =>
      let deltas := comparisonMap (bundle.comparison.map (·.performance))
      let afterTax := deltaDisplay (deltas.get? "after_tax_return_ytd") fmtRatio
      joinLines
        ["| Metric | Value | Prior | Δ |",
         "| --- | --- | --- | --- |",
         moneyRow deltas "Total market value" "total_market_value"
           perf.totalMarketValue,
         moneyRow deltas "Unrealized gain" "unrealized_gain"
           perf.unrealizedGain,
         moneyRow deltas "Realized gain YTD" "realized_gain_ytd"
           perf.realizedGainYtd,
         "| After-tax return YTD | " ++ afterTaxDisplay perf.afterTaxReturnYtd
           ++ " | " ++ afterTax.1 ++ " | " ++ afterTax.2 ++ " |"] ++ "\n"

/-- Neither a sleeve nor a name is out of its band. -/
def ipsInBand (bundle : ReportBundle A R) : Bool :=
  match bundle.ipsDrift with
  | none => true
  | some drift => drift.alerts.isEmpty && drift.concentrationAlerts.isEmpty

/-- The bottom line the client reads first. -/
def externalBluf (bundle : ReportBundle A R) : String :=
  match bundle.performance with
  | none => "Performance snapshot is unavailable for this period "
      ++ "(see limitations).\n"
  | some perf =>
      let policyNote :=
        if ipsInBand bundle then
          "Policy allocation is within IPS bands (Exhibit B)."
        else "IPS sleeve or concentration breaches require review (Exhibit B)."
      let taxNote := "Tax scenario rollups are shown in Exhibit C; deltas may "
        ++ "be zero-stubbed pending the estimate engine."
      "As of " ++ isoformat bundle.asOfDate ++ ", total portfolio market value "
        ++ "is " ++ fmtMoney perf.totalMarketValue ++ " (Exhibit A). "
        ++ "Unrealized gain is " ++ fmtMoney perf.unrealizedGain ++ " and "
        ++ "realized gain YTD is " ++ fmtMoney perf.realizedGainYtd ++ " "
        ++ "(Exhibit A); after-tax return YTD is "
        ++ afterTaxDisplay perf.afterTaxReturnYtd ++ " (Exhibit A). "
        ++ policyNote ++ " " ++ taxNote ++ "\n"

/-- The advisor's headline: market value and the alert counts. -/
def internalHeadline (bundle : ReportBundle A R) : String :=
  let sleeveAlerts := (bundle.ipsDrift.map (·.alerts.length)).getD 0
  let concAlerts :=
    (bundle.ipsDrift.map (·.concentrationAlerts.length)).getD 0
  let mvText :=
    (bundle.performance.map fun perf => fmtMoney perf.totalMarketValue).getD
      "n/a"
  "Advisory headline — MV " ++ mvText ++ " (Exhibit A). IPS sleeve alerts: "
    ++ toString sleeveAlerts ++ "; concentration alerts: "
    ++ toString concAlerts ++ ". Pending approvals: "
    ++ toString bundle.pendingApprovalCount
    ++ ". Open reconciliation breaks (firm-wide): "
    ++ toString bundle.openBreaks.length ++ ".\n"

/-- A heading and its bullets, where there are any. -/
def bulletsUnder (heading : String) (items : List String) : List String :=
  if items.isEmpty then [] else heading :: items.map ("- " ++ ·)

/-- Policy alignment for the client: in band, or the two kinds of breaches. -/
def exhibitBExternal (bundle : ReportBundle A R) : String :=
  match bundle.ipsDrift with
  | none => "_Policy alignment data unavailable._\n"
  | some drift =>
      if ipsInBand bundle then
        "Policy allocation is within IPS bands — no breaches to report.\n"
      else
        joinLines (bulletsUnder "**Sleeve breaches:**" drift.alerts
          ++ bulletsUnder "**Concentration breaches:**"
            drift.concentrationAlerts) ++ "\n"

/-- One sleeve's line of the drift table. -/
def driftRowText (deltas : Dict String ComparisonDelta)
    (row : AllocationDriftRow) : String :=
  let cells := deltaDisplay (deltas.get? row.assetClass) fmtPct
  "| " ++ row.assetClass ++ " | " ++ fmtPct row.currentWeight ++ " | "
    ++ fmtPct row.targetWeight ++ " | " ++ fmtPct row.minWeight ++ " | "
    ++ fmtPct row.maxWeight ++ " | " ++ formatSignedPercent 2 row.drift ++ " | "
    ++ cells.1 ++ " | " ++ cells.2 ++ " |"

/-- The drift table as the advisor reads it. -/
def exhibitBInternal (bundle : ReportBundle A R) : String :=
  match bundle.ipsDrift with
  | none => "_IPS drift data unavailable._\n"
  | some drift =>
      let deltas := comparisonMap (bundle.comparison.map (·.drift))
      joinLines
        (["| Sleeve | Current | Target | Min | Max | Drift | Prior | Δ |",
          "| --- | --- | --- | --- | --- | --- | --- | --- |"]
        ++ drift.rows.map (driftRowText deltas)
        ++ [""]
        ++ bulletsUnder "**Sleeve alerts:**" drift.alerts
        ++ bulletsUnder "**Concentration alerts:**" drift.concentrationAlerts
        ++ (if drift.alerts.isEmpty && drift.concentrationAlerts.isEmpty then
            ["_No sleeve or concentration alerts._"] else [])) ++ "\n"

/-- One scenario's line of the tax table. -/
def taxRowText (scenario : ReportingTaxResult) (idx : Nat) : String :=
  let label := (taxScenarioLabels[idx]?).getD
    ("scenario_" ++ toString (idx + 1))
  "| " ++ label ++ " | " ++ fmtMoney scenario.baselineTax ++ " | "
    ++ fmtMoney scenario.scenarioTax ++ " | " ++ fmtMoney scenario.taxDelta
    ++ " |"

/-- The tax scenarios, or the note that there are none. -/
def taxTable (bundle : ReportBundle A R) : String :=
  if bundle.taxScenarios.isEmpty then "_No tax scenarios computed._\n"
  else
    joinLines
      (["| Scenario | Baseline tax | Scenario tax | Delta |",
        "| --- | --- | --- | --- |"]
      ++ bundle.taxScenarios.zipIdx.map fun (scenario, idx) =>
        taxRowText scenario idx) ++ "\n"

/-- Where the machine-readable pack lies. -/
def appendixPointer : String :=
  "Machine-readable source: `bundle.json` in the report output directory."

/-- The limitations, one bullet each. -/
def limitationsSection (bundle : ReportBundle A R) : String :=
  joinLines (["## Limitations", ""] ++ bundle.limitations.map ("- " ++ ·))
    ++ "\n"

/-- One staged order's line. -/
def orderRowText (ctx : DecimalContext) (order : StagedOrderRow) : String :=
  "| " ++ order.orderId ++ " | " ++ order.securityId ++ " | " ++ order.side
    ++ " | " ++ ctx.str order.quantity ++ " | " ++ order.status.value ++ " |"

/-- One open break's line. -/
def breakRowText (row : ReconciliationBreakRow) : String :=
  "| " ++ row.breakId ++ " | " ++ row.accountId ++ " | " ++ row.description
    ++ " |"

/-- Pending approvals, staged orders and open breaks. -/
def executionSection (ctx : DecimalContext) (bundle : ReportBundle A R) :
    String :=
  joinLines
    (["## Execution & operations",
      "",
      "Pending advisor approvals: **" ++ toString bundle.pendingApprovalCount
        ++ "**.",
      "",
      "_Reconciliation breaks below are firm-wide, not household-scoped._",
      ""]
    ++ (if bundle.stagedOrders.isEmpty then ["_No staged orders._"]
      else
        ["**Staged orders:**",
         "",
         "| Order | Security | Side | Qty | Status |",
         "| --- | --- | --- | --- | --- |"]
        ++ bundle.stagedOrders.map (orderRowText ctx))
    ++ [""]
    ++ (if bundle.openBreaks.isEmpty then ["_No open reconciliation breaks._"]
      else
        ["**Open reconciliation breaks (firm-wide):**",
         "",
         "| Break | Account | Description |",
         "| --- | --- | --- |"]
        ++ bundle.openBreaks.map breakRowText)) ++ "\n"

/-- The checklist an internal pack ends on. -/
def implicationsChecklist : String :=
  "## Implications\n\n- [ ] Review IPS alerts and concentration flags\n"
    ++ "- [ ] Resolve open reconciliation breaks before client delivery\n"
    ++ "- [ ] Obtain advisor attestation on external pack before delivery\n"

-- ===================================================================== packs

/-- What Exhibits D and E show of the other planes' reports. -/
structure InternalExhibits (A R : Type) where
  attribution : A → String
  risk : R → Date → String

/-- `_render_external`: the client's Markdown, section by section. -/
def renderExternal (bundle : ReportBundle A R) : String :=
  joinLines
    [yamlFrontMatter bundle .external "client-facing",
     "",
     "## Executive summary (BLUF)",
     "",
     externalBluf bundle,
     "",
     "## Exhibit A — Performance",
     "",
     performanceTable bundle,
     "",
     "## Exhibit B — Policy alignment",
     "",
     exhibitBExternal bundle,
     "",
     "## Exhibit C — Tax summary",
     "",
     taxTable bundle,
     "",
     "_Tax scenario deltas may be illustrative stubs — not for client "
       ++ "filing._",
     "",
     limitationsSection bundle,
     "",
     "## Appendix",
     "",
     appendixPointer]

/-- `_render_internal`: the advisor's Markdown, with the exhibits the client
does not see. -/
def renderInternal (ctx : DecimalContext) (exhibits : InternalExhibits A R)
    (bundle : ReportBundle A R) : String :=
  joinLines
    ([yamlFrontMatter bundle .internal "IC / advisor",
      "",
      "## Advisory headline",
      "",
      internalHeadline bundle,
      "",
      "## Context",
      "",
      "Internal month-end advisory pack for household " ++ bundle.householdId
        ++ " as of " ++ isoformat bundle.asOfDate ++ ". Snapshot "
        ++ bundle.snapshotId ++ ".",
      "",
      "## Exhibit A — Performance",
      "",
      performanceTable bundle,
      "",
      "## Exhibit B — IPS drift & concentration",
      "",
      exhibitBInternal bundle,
      "",
      "## Exhibit C — Tax scenarios",
      "",
      taxTable bundle,
      "",
      (bundle.attribution.map exhibits.attribution).getD "",
      (bundle.riskHeadline.map fun risk =>
        exhibits.risk risk bundle.asOfDate).getD "",
      executionSection ctx bundle,
      "",
      implicationsChecklist,
      "",
      limitationsSection bundle,
      "",
      "## Appendix",
      "",
      appendixPointer,
      "",
      "**Data sources:**",
      ""]
    ++ bundle.dataSources.map ("- " ++ ·)) ++ "\n"

/-- Render audience-specific Markdown from a frozen bundle. -/
def renderMarkdown (ctx : DecimalContext) (exhibits : InternalExhibits A R)
    (bundle : ReportBundle A R) : ReportAudience → String
  | .external => renderExternal bundle
  | .internal => renderInternal ctx exhibits bundle

/-- A setting in which reports are rendered so. -/
def ReportSetting.rendered (cfg : ReportSetting A R) (ctx : DecimalContext)
    (exhibits : InternalExhibits A R) : ReportSetting A R :=
  { cfg with
    planes := { cfg.planes with renderMarkdown := renderMarkdown ctx exhibits } }

end Warehouse
