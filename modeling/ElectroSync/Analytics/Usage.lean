import ElectroSync.DhakaTime
import ElectroSync.Alerts.UsageSampling
import ElectroSync.Library.Grouping

/-!
# Usage analytics (`analytics/analytics.service.ts`)

The tables as the query reads them, the query itself (the common table expressions `bounds` and
`spread`, and one aggregation for each granularity), and the response built from its rows.
Timestamps of the tables are counts of microseconds.
-/

namespace ElectroSync
open Rounding Grouping

structure MeterRow where
  id : String
  userId : String
  deriving DecidableEq

/-- A row of `meter_usage_sample`, as far as the query reads it. -/
structure UsageSampleRow where
  meterId : String
  windowStart : ℤ
  windowEnd : ℤ
  consumedCost : ℚ
  rechargePaid : ℚ
  advances : windowStart < windowEnd

/-- The two tables of the query; `id` is the primary key of `meter`. -/
structure UsageTables where
  meter : List MeterRow
  meterUsageSample : List UsageSampleRow
  meter_pk : (meter.map (·.id)).Nodup

structure UsageAnalyticsQueryDto where
  granularity : UsageGranularity
  /-- First day, `none` when the text of the query is not a date. -/
  fromDay : Option ℤ
  toDay : Option ℤ
  meterId : Option String

structure UsagePointDto where
  date : Option ℤ
  weekday : Option ℤ
  consumedCost : ℚ
  rechargedAmount : ℚ
  coverage : ℚ
  deriving DecidableEq

structure UsageTotalsDto where
  consumedCost : ℚ
  rechargedAmount : ℚ
  deriving DecidableEq

structure UsageAnalyticsDto where
  granularity : UsageGranularity
  currency : String
  meterCount : ℕ
  observedDays : ℕ
  points : List UsagePointDto
  total : UsageTotalsDto
  deriving DecidableEq

structure BadRequestException where
  message : String
  deriving DecidableEq

def maxRangeDays : ℤ := 366

/-! ## The range -/

structure ResolvedRange where
  rangeStart : ℤ
  rangeEnd : ℤ
  days : List ℤ
  deriving DecidableEq

def resolveRange (query : UsageAnalyticsQueryDto) : Except BadRequestException ResolvedRange :=
  match query.fromDay, query.toDay with
  | some fromDay, some toDay =>
    let rangeStart := dhakaMidnight fromDay
    let inclusiveEnd := dhakaMidnight toDay
    if inclusiveEnd < rangeStart then .error ⟨"to must not be earlier than from."⟩
    else
      let dayCount := roundHalfUp ((inclusiveEnd - rangeStart : ℤ) / msPerDay) + 1
      if dayCount > maxRangeDays then .error ⟨s!"Range must not exceed {maxRangeDays} days."⟩
      else .ok {
        rangeStart
        rangeEnd := inclusiveEnd + msPerDay
        days := (List.range dayCount.toNat).map (addDays fromDay) }
  | _, _ => .error ⟨"from and to must be YYYY-MM-DD dates."⟩

/-! ## The query -/

/-- Whether the optional meter filter lets a meter through; the empty text is no filter. -/
def meterFilter (meterId : Option String) (id : String) : Bool :=
  match meterId with
  | none => true
  | some wanted => wanted = "" || wanted = id

def countMeters (tables : UsageTables) (userId : String) (meterId : Option String) : ℕ :=
  (tables.meter.filter fun m => m.userId = userId && meterFilter meterId m.id).length

/-- A row of `bounds`: a sample in reach of the range, its window as Dhaka wall-clock times. -/
structure Bounds where
  consumedCost : ℚ
  rechargePaid : ℚ
  ws : ℤ
  we : ℤ

def UsageSampleRow.bounds (s : UsageSampleRow) : Bounds where
  consumedCost := s.consumedCost
  rechargePaid := s.rechargePaid
  ws := dhakaMicros s.windowStart
  we := dhakaMicros s.windowEnd

def boundsOf (tables : UsageTables) (userId : String) (meterId : Option String)
    (range : ResolvedRange) : List Bounds :=
  tables.meterUsageSample.flatMap fun s =>
    (tables.meter.filter fun m => m.id = s.meterId && m.userId = userId &&
      s.windowEnd > range.rangeStart * 1000 && s.windowStart < range.rangeEnd * 1000 &&
      meterFilter meterId s.meterId).map fun _ => s.bounds

/-- The day a window closes on: a window that ends exactly at midnight belongs to the day before. -/
def Bounds.closingDay (b : Bounds) : ℤ := truncDay (b.we - 1)

/-- How much of the day `d` a window covers, in microseconds. -/
def Bounds.overlap (b : Bounds) (d : ℤ) : ℤ :=
  min b.we ((d + 1) * microsPerDay) - max b.ws (d * microsPerDay)

structure SpreadRow where
  day : ℤ
  secs : ℚ
  cost : ℚ
  recharged : ℚ

/-- `generate_series(start, stop, interval '1 day')`. -/
def generateSeries (start stop : ℤ) : List ℤ :=
  (List.range (stop + 1 - start).toNat).map fun i : ℕ => start + i

def Bounds.spread (b : Bounds) (fromDay toDay : ℤ) : List SpreadRow :=
  ((generateSeries (truncDay b.ws) b.closingDay).filter fun d => fromDay ≤ d ∧ d ≤ toDay).map
    fun d => {
      day := d
      secs := b.overlap d / 1_000_000
      cost := if d = b.closingDay then b.consumedCost else 0
      recharged := if d = b.closingDay then b.rechargePaid else 0 }

structure BucketRow where
  bucket : ℤ
  cost : ℚ
  recharged : ℚ
  secs : ℚ
  observedDays : ℕ

/-- The Monday of a day's week; day 0 is a Thursday. -/
def truncWeek (day : ℤ) : ℤ := day - (day + 3) % 7

/-- The ISO day of week, 1 for Monday. -/
def isodow (day : ℤ) : ℤ := (day + 3) % 7 + 1

def countDistinctDays (rows : List SpreadRow) : ℕ := (distinctKeys SpreadRow.day rows).length

def selectFor (granularity : UsageGranularity) (spread : List SpreadRow) : List BucketRow :=
  let observedDays := countDistinctDays spread
  match granularity with
  | .daily => (distinctKeys (·.day) spread).map fun bucket => {
      bucket
      cost := groupSum (·.day) (·.cost) bucket spread
      recharged := groupSum (·.day) (·.recharged) bucket spread
      secs := groupSum (·.day) (·.secs) bucket spread
      observedDays }
  | .weekly => (distinctKeys (truncWeek ·.day) spread).map fun bucket => {
      bucket
      cost := groupSum (truncWeek ·.day) (·.cost) bucket spread
      recharged := groupSum (truncWeek ·.day) (·.recharged) bucket spread
      secs := groupSum (truncWeek ·.day) (·.secs) bucket spread
      observedDays }
  -- averaged over the days observed; a group always holds at least one
  | .weekday => (distinctKeys (isodow ·.day) spread).map fun bucket =>
      let distinct := countDistinctDays (group (isodow ·.day) bucket spread)
      { bucket
        cost := groupSum (isodow ·.day) (·.cost) bucket spread / distinct
        recharged := 0
        secs := groupSum (isodow ·.day) (·.secs) bucket spread / distinct
        observedDays }

def spreadOf (tables : UsageTables) (userId : String) (meterId : Option String)
    (range : ResolvedRange) : List SpreadRow :=
  (boundsOf tables userId meterId range).flatMap fun b =>
    b.spread (range.days.head?.getD 0) (range.days.getLast?.getD 0)

def fetchBuckets (tables : UsageTables) (userId : String) (query : UsageAnalyticsQueryDto)
    (range : ResolvedRange) : List BucketRow :=
  selectFor query.granularity (spreadOf tables userId query.meterId range)

/-! ## The response -/

/-- How many days a bucket should hold; a week clipped by the range holds fewer than seven. -/
def expectedDays (granularity : UsageGranularity) (bucket : ℤ) (days : List ℤ) : ℕ :=
  match granularity with
  | .weekly => (days.filter fun day => bucket ≤ day && day < bucket + 7).length
  | _ => 1

def toPoint (query : UsageAnalyticsQueryDto) (row : BucketRow) (meterCount : ℕ) (days : List ℤ) :
    UsagePointDto :=
  let expected := expectedDays query.granularity row.bucket days
  let coverage : ℚ :=
    if expected = 0 then 0 else min (row.secs / (secondsPerDay * expected * meterCount)) 1
  { date := if query.granularity = .weekday then none else some row.bucket
    weekday := if query.granularity = .weekday then some row.bucket else none
    consumedCost := round row.cost
    rechargedAmount := round row.recharged
    coverage := round coverage }

def emptyUsage (query : UsageAnalyticsQueryDto) (meterCount : ℕ) : UsageAnalyticsDto where
  granularity := query.granularity
  currency := "BDT"
  meterCount
  observedDays := 0
  points := []
  total := ⟨0, 0⟩

def usage (tables : UsageTables) (userId : String) (query : UsageAnalyticsQueryDto) :
    Except BadRequestException UsageAnalyticsDto := do
  let range ← resolveRange query
  let meterCount := countMeters tables userId query.meterId
  -- no meters in scope: no denominator for the coverage
  if meterCount = 0 then return emptyUsage query 0
  let rows := fetchBuckets tables userId query range
  let points := rows.map fun row => toPoint query row meterCount range.days
  return {
    granularity := query.granularity
    currency := "BDT"
    meterCount
    observedDays := (rows.head?.map (·.observedDays)).getD 0
    points
    total := {
      consumedCost := round (points.map (·.consumedCost)).sum
      rechargedAmount := round (points.map (·.rechargedAmount)).sum } }

end ElectroSync
