/-
What a report bundle omits.

The bundle takes its orders, breaks and approvals from the listings the
interactive queries use, and these stop at a limit: fifty rows, or the
five hundred newest of which the pending ones are counted. A listing cut
at a limit is whole exactly when there is no more to list
(`perm_take_iff`), and a count over its first rows is the whole count
exactly when none of the counted comes later (`length_filter_take_iff`).
What the bundle lists is what the store held before it was built, for the
tax runs written first touch none of the three tables
(`collectReportBundle_lists`).

# Listings with limits

A bundle is made from listings that stop after a fixed number of rows: fifty
orders, fifty breaks, five hundred requests of which the pending ones are
counted. Nothing in the bundle says that one was cut. The condition
(`BundleFits`) is about the store: at most fifty orders of the household, at
most fifty open breaks of all households together, and no pending request
older than the newest five hundred.
-/
import Warehouse.Proofs.MonthEnd

namespace Warehouse

open Lib

variable {A R : Type} {cfg : ReportSetting A R} {site : Site A R}
  {householdId : String} {asOf : Date}

-- ============================================================ cut listings

section Cut

variable {α : Type}

/-- A list cut at a limit is whole when it is no longer than that. -/
theorem perm_take_iff {xs ys : List α} (h : ys.Perm xs) (n : Nat) :
    (ys.take n).Perm xs ↔ xs.length ≤ n := by
  constructor
  · intro hperm
    have hlen := hperm.length_eq
    rw [List.length_take] at hlen
    omega
  · intro hlen
    rw [List.take_of_length_le (by rw [h.length_eq]; exact hlen)]
    exact h

/-- A count over the first rows is the whole count when no later row is
counted. -/
theorem length_filter_take_iff (p : α → Bool) (n : Nat) (xs : List α) :
    ((xs.take n).filter p).length = (xs.filter p).length
      ↔ ∀ x ∈ xs.drop n, p x = false := by
  have hsplit : (xs.filter p).length
      = ((xs.take n).filter p).length + ((xs.drop n).filter p).length := by
    rw [← List.length_append, ← List.filter_append, List.take_append_drop]
  have hnone : ((xs.drop n).filter p).length = 0
      ↔ ∀ x ∈ xs.drop n, p x = false := by
    rw [List.length_eq_zero_iff, List.filter_eq_nil_iff]
    exact forall₂_congr fun x _ => Bool.not_eq_true _ ▸ Iff.rfl
  rw [← hnone]
  omega

end Cut

-- ================================================================ the tables

/-- A row of a household. Every listing reads an empty id as no filter, so
here it stands for all of them. -/
def OfHousehold (householdId rowHousehold : String) : Prop :=
  householdId = "" ∨ rowHousehold = householdId

instance (householdId rowHousehold : String) :
    Decidable (OfHousehold householdId rowHousehold) :=
  inferInstanceAs (Decidable (_ ∨ _))

/-- The orders of one household. -/
def householdOrders (store : Store) (householdId : String) :
    List StagedOrderRow :=
  store.stagedOrders.filter (OfHousehold householdId ·.householdId)

/-- The unresolved breaks, of every household. -/
def openBreakRows (store : Store) : List ReconciliationBreakRow :=
  store.reconciliationBreaks.filter (!·.resolved)

/-- The requests of one household. -/
def householdRequests (store : Store) (householdId : String) :
    List ApprovalRequestRow :=
  store.approvalRequests.filter (OfHousehold householdId ·.householdId)

/-- A household's approval requests, newest first. -/
def newestRequests (order : ReportOrder) (store : Store)
    (householdId : String) : List ApprovalRequestRow :=
  (order.approvals (householdRequests store householdId)).insertionSort
    fun a b => b.createdAt ≤ a.createdAt

/-- The bundle has every staged order of the household, every open break
and the number of its pending approvals. -/
structure BundleComplete (store : Store) (householdId : String)
    (bundle : ReportBundle A R) : Prop where
  orders : bundle.stagedOrders.Perm (householdOrders store householdId)
  breaks : bundle.openBreaks.Perm (openBreakRows store)
  pending : bundle.pendingApprovalCount
    = ((householdRequests store householdId).filter
      (·.status = .pending)).length

/-- The store is within the limits of the listings. -/
structure BundleFits (order : ReportOrder) (store : Store)
    (householdId : String) : Prop where
  orders : (householdOrders store householdId).length ≤ 50
  breaks : (openBreakRows store).length ≤ 50
  pending : ∀ row ∈ (newestRequests order store householdId).drop 500,
    row.status ≠ .pending

/-- The filter of the listings. -/
theorem ofHousehold_listed (householdId rowHousehold : String) :
    (!truthy (some householdId) || some householdId = some rowHousehold)
      = decide (OfHousehold householdId rowHousehold) := by
  unfold truthy OfHousehold
  by_cases hempty : householdId = ""
  · simp [hempty]
  · simp [hempty, eq_comm]

/-- A household's orders, newest first, fifty at most. -/
theorem listStagedOrders_household (order : RowOrder) (store : Store)
    (householdId : String) :
    listStagedOrders order store (some householdId)
      = ((order.orders (householdOrders store householdId)).insertionSort
        fun a b => b.createdAt ≤ a.createdAt).take 50 := by
  unfold listStagedOrders householdOrders
  simp only [ofHousehold_listed, Option.isNone_none, Bool.true_or,
    Bool.and_true]

/-- Open breaks of every household, newest first, fifty at most. -/
theorem listReconciliationBreaks_open (order : ReportOrder) (store : Store) :
    listReconciliationBreaks order store
      = ((order.breaks (openBreakRows store)).insertionSort
        fun a b => b.openedAt ≤ a.openedAt).take 50 := rfl

/-- The pending among the newest five hundred requests. -/
theorem pendingApprovalCount_newest (order : ReportOrder) (store : Store)
    (householdId : String) :
    pendingApprovalCount order store householdId
      = (((newestRequests order store householdId).take 500).filter
        (·.status = .pending)).length := by
  unfold pendingApprovalCount listApprovalRequests newestRequests
    householdRequests
  simp only [ofHousehold_listed]

-- ================================================================ the bundle

/-- The listings are read off the planes' tables, which tax runs leave
alone. -/
theorem listings_planes {store store' : Store} (order : ReportOrder)
    (householdId : String) (h : store'.planes = store.planes) :
    listStagedOrders order.toRowOrder store' (some householdId)
        = listStagedOrders order.toRowOrder store (some householdId)
      ∧ listReconciliationBreaks order store'
        = listReconciliationBreaks order store
      ∧ pendingApprovalCount order store' householdId
        = pendingApprovalCount order store householdId := by
  have horders : ∀ s : Store,
      listStagedOrders order.toRowOrder s (some householdId)
        = listStagedOrders order.toRowOrder s.planes (some householdId) :=
    fun _ => rfl
  have hbreaks : ∀ s : Store, listReconciliationBreaks order s
      = listReconciliationBreaks order s.planes := fun _ => rfl
  have hpending : ∀ s : Store, pendingApprovalCount order s householdId
      = pendingApprovalCount order s.planes householdId := fun _ => rfl
  refine ⟨?_, ?_, ?_⟩
  · rw [horders store', horders store, h]
  · rw [hbreaks store', hbreaks store, h]
  · rw [hpending store', hpending store, h]

/-- The three listings in a bundle are of the store it was asked of. -/
theorem collectReportBundle_lists {period : ReportPeriod}
    {bundle : ReportBundle A R}
    (h : ((collectReportBundle cfg householdId period asOf).exec site).1
      = .ok bundle) :
    bundle.stagedOrders
        = listStagedOrders cfg.order.toRowOrder site.store (some householdId)
      ∧ bundle.openBreaks = listReconciliationBreaks cfg.order site.store
      ∧ bundle.pendingApprovalCount
        = pendingApprovalCount cfg.order site.store householdId := by
  cases hpre : reportPreconditions cfg.order cfg.planes cfg.settings
      site.store householdId asOf with
  | error e =>
    rw [collectReportBundle_refused period hpre] at h
    cases h
  | ok found =>
    obtain ⟨positions, performance, ipsDrift⟩ := found
    obtain ⟨outcome, hexec, hbundle⟩ := collectReportBundle_exec period hpre
    rw [hexec] at h
    dsimp only at h
    subst h
    split at hbundle
    · obtain ⟨found, hfound, hcollected⟩ := hbundle
      cases hfound
      obtain ⟨horders, hbreaks, hpending⟩ := listings_planes cfg.order
        householdId
        (taxRuns_leaves cfg householdId asOf positions site.store).planes
      exact ⟨hcollected.stagedOrders.trans horders,
        hcollected.openBreaks.trans hbreaks,
        hcollected.pending.trans hpending⟩
    · obtain ⟨e, he⟩ := hbundle
      cases he

/-- A bundle omits nothing exactly when the store is within the limits of
the listings it is made from. -/
theorem bundle_complete_iff (cfg : ReportSetting A R) (householdId : String)
    (period : ReportPeriod) (asOf : Date) (site : Site A R)
    (bundle : ReportBundle A R)
    (h : ((collectReportBundle cfg householdId period asOf).exec site).1
      = .ok bundle) :
    BundleComplete site.store householdId bundle
      ↔ BundleFits cfg.order site.store householdId := by
  obtain ⟨horders, hbreaks, hpending⟩ := collectReportBundle_lists h
  rw [listStagedOrders_household] at horders
  rw [listReconciliationBreaks_open] at hbreaks
  rw [pendingApprovalCount_newest] at hpending
  have hordersPerm := (List.perm_insertionSort
    (fun a b : StagedOrderRow => b.createdAt ≤ a.createdAt) _).trans
      (cfg.order.ordersPerm (householdOrders site.store householdId))
  have hbreaksPerm := (List.perm_insertionSort
    (fun a b : ReconciliationBreakRow => b.openedAt ≤ a.openedAt) _).trans
      (cfg.order.breaksPerm (openBreakRows site.store))
  have hrequestsPerm : (newestRequests cfg.order site.store householdId).Perm
      (householdRequests site.store householdId) :=
    (List.perm_insertionSort _ _).trans (cfg.order.approvalsPerm _)
  have hcount := (hrequestsPerm.filter
    (·.status = .pending)).length_eq
  constructor
  · intro hcomplete
    refine ⟨?_, ?_, ?_⟩
    · exact (perm_take_iff hordersPerm 50).mp (horders ▸ hcomplete.orders)
    · exact (perm_take_iff hbreaksPerm 50).mp (hbreaks ▸ hcomplete.breaks)
    · have hwhole := hcomplete.pending
      rw [hpending, ← hcount, length_filter_take_iff] at hwhole
      intro row hrow
      exact of_decide_eq_false (hwhole row hrow)
  · intro hfits
    refine ⟨?_, ?_, ?_⟩
    · rw [horders]
      exact (perm_take_iff hordersPerm 50).mpr hfits.orders
    · rw [hbreaks]
      exact (perm_take_iff hbreaksPerm 50).mpr hfits.breaks
    · rw [hpending, ← hcount, length_filter_take_iff]
      intro row hrow
      exact decide_eq_false (hfits.pending row hrow)

-- ============================================================ concrete stores

/-- The one household's bundle at a site. -/
def bundleAt (site : Site Unit Unit) : Except Exc (ReportBundle Unit Unit) :=
  ((collectReportBundle plainReports "hh_1" (.monthEnd 739400) 739400).exec
    site).1

/-- A household with nothing open has a complete bundle. -/
theorem bundle_complete_iff_quiet :
    ∃ bundle, bundleAt unreportedSite = .ok bundle
      ∧ BundleComplete unreportedSite.store "hh_1" bundle := by
  cases h : bundleAt unreportedSite with
  | error e =>
    have hok : (bundleAt unreportedSite).isOk = true := by decide +kernel
    rw [h] at hok
    cases hok
  | ok bundle =>
    refine ⟨bundle, rfl, (bundle_complete_iff plainReports "hh_1"
      (.monthEnd 739400) 739400 unreportedSite bundle h).mpr ⟨?_, ?_, ?_⟩⟩
    · decide
    · decide
    · intro row hrow
      cases hrow

/-- The site with fifty-one open breaks. -/
def crowdedSite : Site Unit Unit :=
  { unreportedSite with
    store := { unreportedSite.store with
      reconciliationBreaks := (List.range 51).map fun i =>
        { breakId := "brk_" ++ toString i
          ingestRunId := "ingest_1"
          accountId := "acct_1"
          securityId := some "sec_vti"
          breakType := .quantityMismatch
          description := "quantity mismatch"
          openedAt := 739000 + i } } }

/-- The fifty-first open break is not in the bundle. -/
theorem crowdedSite_bundle_incomplete :
    ∃ bundle, bundleAt crowdedSite = .ok bundle
      ∧ bundle.openBreaks.length = 50
      ∧ (openBreakRows crowdedSite.store).length = 51
      ∧ ¬BundleComplete crowdedSite.store "hh_1" bundle := by
  cases h : bundleAt crowdedSite with
  | error e =>
    have hok : (bundleAt crowdedSite).isOk = true := by decide +kernel
    rw [h] at hok
    cases hok
  | ok bundle =>
    have hopen : (openBreakRows crowdedSite.store).length = 51 := by
      decide +kernel
    have hlisted : bundle.openBreaks.length = 50 := by
      rw [(collectReportBundle_lists h).2.1, listReconciliationBreaks_open,
        List.length_take, List.length_insertionSort]
      exact congrArg (min 50) hopen
    refine ⟨bundle, rfl, hlisted, hopen, fun hcomplete => ?_⟩
    have hlength := hcomplete.breaks.length_eq
    omega

end Warehouse
