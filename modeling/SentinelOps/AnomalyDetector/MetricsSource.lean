import SentinelOps.Ml.WindowBounds
import SentinelOps.Lib.PyText

/-!
# The source of live windows

A `MetricsSource` keeps its previous scrape, so that each new one closes a window. `nextWindow` is one
call of it and `run` a sequence of calls; what the clocks read and how the request ends is part of a
call. Arithmetic is exact. `nextWindow_conserves`: the windows are in order, a failed scrape changes
nothing, and the rates of the windows add up to the growth of the counters.
-/

namespace SentinelOps.AnomalyDetector

open PyFloat Ml

/-- `SignalWindow`. -/
structure SignalWindow where
  windowStart : Instant
  windowEnd : Instant
  dtSeconds : ℚ
  signals : Signals PyFloat
  scrapeTime : Instant

/-- The state of a `MetricsSource`: its previous scrape. -/
structure MetricsSource where
  url : String
  prev : Option MetricSnapshot := none
  prevAt : Option ℚ := none
  prevWall : Option Instant := none

/-- How the request to `/metrics` ends. -/
inductive Response where
  | httpError (exc : String)
  | unparsable (exc : String)
  | metrics (snapshot : MetricSnapshot)

/-- `_scrape`. -/
def scrape (url : String) : Response → Except String MetricSnapshot
  | .httpError exc => .error s!"GET {url} failed: {exc}"
  | .unparsable exc => .error s!"could not parse metrics from {url}: {exc}"
  | .metrics snapshot => .ok snapshot

/-- One call of `next_window`: the clocks before the scrape and after it, and how it ends. -/
structure Call where
  now : ℚ
  wall : Instant
  response : Response
  scrapedAt : Instant

/-- `next_window`. -/
def nextWindow (source : MetricsSource) (call : Call) :
    MetricsSource × Except String (Option SignalWindow) :=
  match scrape source.url call.response with
  | .error e => (source, .error e)
  | .ok snapshot =>
    ({ source with
        prev := some snapshot, prevAt := some call.now, prevWall := some call.wall },
      match source.prev, source.prevAt, source.prevWall with
      | some prev, some prevAt, some prevWall => do
        let dt := call.now - prevAt
        match ← windowSignals .fin prev snapshot (.fin dt) with
        | none => return none
        | some signals => return some ⟨prevWall, call.wall, dt, signals, call.scrapedAt⟩
      | _, _, _ => .ok none)

/-- A sequence of calls, with what each of them returns or raises. -/
def run (source : MetricsSource) :
    List Call → MetricsSource × List (Except String (Option SignalWindow))
  | [] => (source, [])
  | call :: calls =>
    let (source, result) := nextWindow source call
    let (source, results) := run source calls
    (source, result :: results)

/-- The window a call returns. -/
def returned : Except String (Option SignalWindow) → Option SignalWindow
  | .ok window => window
  | .error _ => none

/-- The windows returned by a sequence of calls. -/
def windows (source : MetricsSource) (calls : List Call) : List SignalWindow :=
  (run source calls).2.filterMap returned

/-- The snapshots of the successful scrapes. -/
def snapshots (url : String) (calls : List Call) : List MetricSnapshot :=
  calls.filterMap fun call => (scrape url call.response).toOption

/-- The tracked counters are numbers, and none decreases from one scrape to the next. -/
structure Steady (scrapes : List MetricSnapshot) : Prop where
  numbers : ∀ s ∈ scrapes, ∀ f ∈ cumulativeFields, ∃ a : ℚ, f s = .fin a
  grows : scrapes.IsChain fun prev cur => ∀ f ∈ cumulativeFields, (f prev).le (f cur) = true

/-- A rate times the length of its window, summed over windows. -/
def accumulated (rate : Signals PyFloat → PyFloat) (windows : List SignalWindow) : PyFloat :=
  windows.foldr (fun w sum => addBy .fin (mulBy .fin (rate w.signals) (.fin w.dtSeconds)) sum)
    (.fin 0)

/-- The attempts to publish. -/
def published (snapshot : MetricSnapshot) : PyFloat :=
  addBy .fin snapshot.publishSuccessTotal snapshot.publishFailureTotal

/-- Windows in the order of time that do not overlap. -/
structure InOrder (ws : List SignalWindow) : Prop where
  apart : ws.Pairwise fun w w' => w.windowEnd ≤ w'.windowStart
  forward : ∀ w ∈ ws, w.windowStart ≤ w.windowEnd

/-- The rates of windows add up to the growth of the counters between two scrapes. -/
structure Conserved (ws : List SignalWindow) (first last : MetricSnapshot) : Prop where
  requests : accumulated (·.requestRate) ws =
    subBy .fin last.httpPostCountTotal first.httpPostCountTotal
  publishes : accumulated (·.publishRate) ws = subBy .fin (published last) (published first)
  orders : accumulated (·.ordersCreatedRate) ws =
    subBy .fin last.ordersCreatedTotal first.ordersCreatedTotal

section
variable {source : MetricsSource} {call : Call} {calls : List Call}

/-- A failed scrape changes nothing. -/
lemma nextWindow_of_error {e} (failed : scrape source.url call.response = .error e) :
    nextWindow source call = (source, .error e) := by
  unfold nextWindow
  rw [failed]

/-- The state after a successful scrape. -/
lemma nextWindow_fst {snapshot} (scraped : scrape source.url call.response = .ok snapshot) :
    (nextWindow source call).1 =
      ⟨source.url, some snapshot, some call.now, some call.wall⟩ := by
  unfold nextWindow
  rw [scraped]

/-- The endpoint stays. -/
lemma nextWindow_url : (nextWindow source call).1.url = source.url := by
  cases scraped : scrape source.url call.response with
  | error e => rw [nextWindow_of_error scraped]
  | ok snapshot => rw [nextWindow_fst scraped]

/-- A returned window lasts from the previous scrape to this one. -/
lemma nextWindow_window {window} (closes : returned (nextWindow source call).2 = some window) :
    source.prevWall = some window.windowStart ∧ window.windowEnd = call.wall := by
  unfold nextWindow at closes
  split at closes
  · cases closes
  · dsimp only at closes
    split at closes
    · rename_i prev prevAt prevWall _ _ wall
      rw [wall]
      cases signals : windowSignals .fin prev _ (.fin (call.now - prevAt)) with
      | error e =>
        rw [signals] at closes
        cases closes
      | ok signals' =>
        rw [signals] at closes
        cases signals' with
        | none => cases closes
        | some signals' =>
          cases closes
          exact ⟨rfl, rfl⟩
    · cases closes

/-- The windows after one more call. -/
lemma windows_cons : windows source (call :: calls) =
    (returned (nextWindow source call).2).toList ++ windows (nextWindow source call).1 calls := by
  unfold windows
  rw [run]
  dsimp only
  cases closes : returned (nextWindow source call).2 with
  | none => rw [List.filterMap_cons_none closes]; rfl
  | some w => rw [List.filterMap_cons_some closes]; rfl

/-- Windows of calls with clocks that do not go back are in order, from the previous scrape on. -/
lemma inOrder_windows (clocks : calls.Pairwise fun a b => a.wall ≤ b.wall)
    (after : ∀ wall, source.prevWall = some wall → ∀ call ∈ calls, wall ≤ call.wall) :
    InOrder (windows source calls) ∧
      ∀ w ∈ windows source calls, ∀ wall, source.prevWall = some wall → wall ≤ w.windowStart := by
  induction calls generalizing source with
  | nil =>
    have none : windows source [] = [] := rfl
    rw [none]
    exact ⟨⟨.nil, fun _ mem => (by cases mem)⟩, fun _ mem => (by cases mem)⟩
  | cons call calls ih =>
    obtain ⟨earliest, clocks⟩ := List.pairwise_cons.mp clocks
    have kept : (nextWindow source call).1.prevWall = source.prevWall ∨
        (nextWindow source call).1.prevWall = some call.wall := by
      cases scraped : scrape source.url call.response with
      | error e => rw [nextWindow_of_error scraped]; exact .inl rfl
      | ok snapshot => rw [nextWindow_fst scraped]; exact .inr rfl
    obtain ⟨order, later⟩ := @ih (nextWindow source call).1 clocks (by
      intro wall here call' mem
      obtain same | now := kept
      · exact after wall (same ▸ here) call' (List.mem_cons_of_mem _ mem)
      · rw [now] at here
        cases here
        exact earliest call' mem)
    rw [windows_cons]
    cases closes : returned (nextWindow source call).2 with
    | none =>
      refine ⟨order, fun w mem wall here => ?_⟩
      obtain same | now := kept
      · exact later w mem wall (same.trans here)
      · exact (after wall here call List.mem_cons_self).trans (later w mem _ now)
    | some window =>
      obtain ⟨starts, ends⟩ := nextWindow_window closes
      have now : (nextWindow source call).1.prevWall = some call.wall := by
        cases scraped : scrape source.url call.response with
        | error e =>
          rw [nextWindow_of_error scraped] at closes
          cases closes
        | ok snapshot => rw [nextWindow_fst scraped]
      have forward : window.windowStart ≤ window.windowEnd :=
        ends ▸ after _ starts call List.mem_cons_self
      have behind (w) (mem : w ∈ windows (nextWindow source call).1 calls) :
          window.windowEnd ≤ w.windowStart := ends ▸ later w mem _ now
      refine ⟨⟨List.pairwise_cons.mpr ⟨behind, order.apart⟩, ?_⟩, ?_⟩
      · exact List.forall_mem_cons.mpr ⟨forward, order.forward⟩
      · intro w mem wall here
        rw [starts] at here
        cases here
        obtain rfl | mem := List.mem_cons.mp mem
        · exact le_refl _
        · exact forward.trans (behind w mem)

end

section
variable {prev cur : MetricSnapshot} {dt : ℚ}

/-- A valid window between steady scrapes holds the growth of the counters. -/
lemma exists_window (steady : Steady [prev, cur])
    (valid : windowSignals .fin prev cur (.fin dt) ≠ .ok none) :
    ∃ s, windowSignals .fin prev cur (.fin dt) = .ok (some s) ∧
      mulBy .fin s.requestRate (.fin dt) =
        subBy .fin cur.httpPostCountTotal prev.httpPostCountTotal ∧
      mulBy .fin s.publishRate (.fin dt) = subBy .fin (published cur) (published prev) ∧
      mulBy .fin s.ordersCreatedRate (.fin dt) =
        subBy .fin cur.ordersCreatedTotal prev.ordersCreatedTotal := by
  have in_time : invalidWindow .fin prev cur (.fin dt) = false := by
    rw [Bool.eq_false_iff]
    exact fun invalid => valid (windowSignals_none invalid)
  have positive : 0 < dt := by
    unfold invalidWindow at in_time
    rw [Bool.or_eq_false_iff, le_fin] at in_time
    exact not_le.mp (of_decide_eq_false in_time.1)
  -- a counter of a steady source is a number and never goes back, so `max(…, 0)` is the growth
  have number (f) (mem : f ∈ cumulativeFields) :
      ∃ a b : ℚ, f prev = .fin a ∧ f cur = .fin b ∧ a ≤ b := by
    obtain ⟨a, before⟩ := steady.numbers prev (by simp) f mem
    obtain ⟨b, after⟩ := steady.numbers cur (by simp) f mem
    have grows := (List.isChain_cons_cons.mp steady.grows).1 f mem
    rw [before, after, le_fin] at grows
    exact ⟨a, b, before, after, of_decide_eq_true grows⟩
  have growth (f) (mem : f ∈ cumulativeFields) : ∃ g : ℚ,
      subBy .fin (f cur) (f prev) = .fin g ∧
      PyFloat.max (subBy .fin (f cur) (f prev)) (.fin 0) = .fin g := by
    obtain ⟨a, b, before, after, le⟩ := number f mem
    rw [before, after, growth_fin le, subBy_fin]
    exact ⟨b - a, rfl, rfl⟩
  have lasts {g : ℚ} : mulBy .fin (.fin (g / dt)) (.fin dt) = .fin g := by
    rw [mulBy_fin, div_mul_cancel₀ _ positive.ne']
  obtain ⟨req, grows_req, eq_req⟩ := growth (·.httpPostCountTotal) (by simp [cumulativeFields])
  obtain ⟨_, -, eq_fails⟩ := growth (·.httpPostCount5xx) (by simp [cumulativeFields])
  obtain ⟨_, -, eq_oks⟩ := growth (·.httpPostCount2xx) (by simp [cumulativeFields])
  obtain ⟨_, eq_latency, -⟩ := growth (·.httpPostLatencySumMs) (by simp [cumulativeFields])
  obtain ⟨_, -, eq_published⟩ := growth (·.publishLatencyCount) (by simp [cumulativeFields])
  obtain ⟨_, eq_publishing, -⟩ := growth (·.publishLatencySumS) (by simp [cumulativeFields])
  obtain ⟨created, grows_created, eq_created⟩ :=
    growth (·.ordersCreatedTotal) (by simp [cumulativeFields])
  obtain ⟨a, b, ok_before, ok_after, ok_le⟩ :=
    number (·.publishSuccessTotal) (by simp [cumulativeFields])
  obtain ⟨c, d, fail_before, fail_after, fail_le⟩ :=
    number (·.publishFailureTotal) (by simp [cumulativeFields])
  have eq_attempts : PyFloat.max (addBy .fin
      (subBy .fin cur.publishSuccessTotal prev.publishSuccessTotal)
      (subBy .fin cur.publishFailureTotal prev.publishFailureTotal)) (.fin 0) =
      .fin (b - a + (d - c)) := by
    rw [ok_before, ok_after, fail_before, fail_after, subBy_fin, subBy_fin, addBy_fin, max_fin,
      max_eq_left (add_nonneg (sub_nonneg.mpr ok_le) (sub_nonneg.mpr fail_le))]
  have eq_failures : PyFloat.max
      (subBy .fin cur.publishFailureTotal prev.publishFailureTotal) (.fin 0) = .fin (d - c) := by
    rw [fail_before, fail_after, growth_fin fail_le]
  obtain ⟨p50, read50⟩ := @safeQ_total .fin (bucketDeltas .fin prev.httpPostLatencyBuckets
    cur.httpPostLatencyBuckets) (.fin (1 / 2))
  obtain ⟨p90, read90⟩ := @safeQ_total .fin (bucketDeltas .fin prev.httpPostLatencyBuckets
    cur.httpPostLatencyBuckets) (.fin (9 / 10))
  obtain ⟨p95, read95⟩ := @safeQ_total .fin (bucketDeltas .fin prev.httpPostLatencyBuckets
    cur.httpPostLatencyBuckets) (.fin (19 / 20))
  refine ⟨_, windowSignals_of_growth in_time positive eq_req eq_fails eq_oks eq_latency eq_attempts
    eq_failures eq_published eq_publishing eq_created read50 read90 read95, ?_, ?_, ?_⟩
  · exact lasts.trans grows_req.symm
  · unfold published
    rw [ok_before, ok_after, fail_before, fail_after, addBy_fin, addBy_fin, subBy_fin, lasts]
    congr 1
    ring
  · exact lasts.trans grows_created.symm

/-- Rates that hold the growth to the next scrape add to those from there on. -/
lemma accumulated_cons {rate : Signals PyFloat → PyFloat} {w : SignalWindow} {ws} {x y z : PyFloat}
    (number_x : ∃ a : ℚ, x = .fin a) (number_y : ∃ b : ℚ, y = .fin b)
    (number_z : ∃ c : ℚ, z = .fin c)
    (here : mulBy .fin (rate w.signals) (.fin w.dtSeconds) = subBy .fin y x)
    (rest : accumulated rate ws = subBy .fin z y) :
    accumulated rate (w :: ws) = subBy .fin z x := by
  obtain ⟨a, rfl⟩ := number_x
  obtain ⟨b, rfl⟩ := number_y
  obtain ⟨c, rfl⟩ := number_z
  unfold accumulated at rest ⊢
  rw [List.foldr_cons, rest, here, subBy_fin, subBy_fin, addBy_fin, subBy_fin]
  congr 1
  ring

/-- No windows hold no growth. -/
lemma accumulated_nil {rate : Signals PyFloat → PyFloat} {x : PyFloat}
    (number : ∃ a : ℚ, x = .fin a) : accumulated rate [] = subBy .fin x x := by
  obtain ⟨a, rfl⟩ := number
  rw [subBy_fin, sub_self]
  rfl

/-- The counters of steady scrapes whose growth the windows hold are numbers. -/
lemma Steady.number {scrapes} (steady : Steady scrapes) {s} (mem : s ∈ scrapes) :
    (∃ a : ℚ, s.httpPostCountTotal = .fin a) ∧ (∃ a : ℚ, published s = .fin a) ∧
      ∃ a : ℚ, s.ordersCreatedTotal = .fin a := by
  obtain ⟨oks, eq_oks⟩ := steady.numbers s mem (·.publishSuccessTotal) (by simp [cumulativeFields])
  obtain ⟨fails, eq_fails⟩ :=
    steady.numbers s mem (·.publishFailureTotal) (by simp [cumulativeFields])
  refine ⟨steady.numbers s mem (·.httpPostCountTotal) (by simp [cumulativeFields]),
    ⟨oks + fails, ?_⟩, steady.numbers s mem (·.ordersCreatedTotal) (by simp [cumulativeFields])⟩
  unfold published
  rw [eq_oks, eq_fails, addBy_fin]

/-- A scrape after another one closes a window that the signals are those of. -/
lemma nextWindow_ok {source : MetricsSource} {call : Call} {time : ℚ} {wall : Instant}
    (scraped : scrape source.url call.response = .ok cur) (at_prev : source.prev = some prev)
    (at_time : source.prevAt = some time) (at_wall : source.prevWall = some wall) :
    (nextWindow source call).2 = (windowSignals .fin prev cur (.fin (call.now - time))).map
      (·.map fun s => ⟨wall, call.wall, call.now - time, s, call.scrapedAt⟩) := by
  unfold nextWindow
  rw [scraped]
  dsimp only
  rw [at_prev, at_time, at_wall]
  dsimp only
  cases windowSignals .fin prev cur (.fin (call.now - time)) with
  | error e => rfl
  | ok signals => cases signals <;> rfl

/-- The windows after a scrape hold the growth of the counters up to the last one. -/
lemma conserved_windows {source : MetricsSource} {calls : List Call} {first : MetricSnapshot}
    {time : ℚ} {wall : Instant} (at_prev : source.prev = some first)
    (at_time : source.prevAt = some time) (at_wall : source.prevWall = some wall)
    (steady : Steady (first :: snapshots source.url calls))
    (valid : .ok none ∉ (run source calls).2) :
    Conserved (windows source calls) first ((snapshots source.url calls).getLastD first) := by
  induction calls generalizing source first time wall with
  | nil =>
    obtain ⟨total, publishes, created⟩ := steady.number List.mem_cons_self
    exact ⟨accumulated_nil total, accumulated_nil publishes, accumulated_nil created⟩
  | cons call calls ih =>
    have here_valid : (nextWindow source call).2 ≠ .ok none :=
      fun none => valid (none ▸ List.mem_cons_self)
    have rest_valid : .ok none ∉ (run (nextWindow source call).1 calls).2 :=
      fun mem => valid (List.mem_cons_of_mem _ mem)
    rw [windows_cons]
    cases scraped : scrape source.url call.response with
    | error e =>
      have skipped : snapshots source.url (call :: calls) = snapshots source.url calls :=
        List.filterMap_cons_none (by rw [scraped]; rfl)
      rw [skipped] at steady ⊢
      rw [nextWindow_of_error scraped] at rest_valid ⊢
      exact ih at_prev at_time at_wall steady rest_valid
    | ok snapshot =>
      have counted : snapshots source.url (call :: calls) =
          snapshot :: snapshots source.url calls :=
        List.filterMap_cons_some (by rw [scraped]; rfl)
      rw [counted] at steady ⊢
      have closes := nextWindow_ok scraped at_prev at_time at_wall
      have steady_rest : Steady (snapshot :: snapshots source.url calls) :=
        ⟨fun s mem => steady.numbers s (List.mem_cons_of_mem _ mem), steady.grows.tail⟩
      have steady_here : Steady [first, snapshot] := by
        refine ⟨fun s mem => steady.numbers s ?_, ?_⟩
        · exact List.mem_append_left (snapshots source.url calls) mem
        · exact List.isChain_pair.mpr (List.isChain_cons_cons.mp steady.grows).1
      obtain ⟨s, signals, requests, publishes, orders⟩ :=
        @exists_window first snapshot (call.now - time) steady_here (by
          intro none
          rw [closes, none] at here_valid
          exact here_valid rfl)
      rw [signals] at closes
      have rest := @ih (nextWindow source call).1 snapshot call.now call.wall
        (by rw [nextWindow_fst scraped]) (by rw [nextWindow_fst scraped])
        (by rw [nextWindow_fst scraped]) (by rw [nextWindow_url]; exact steady_rest) rest_valid
      rw [nextWindow_url] at rest
      have last_mem := @List.getLastD_mem_cons _ (snapshots source.url calls) snapshot
      obtain ⟨total, publish, created⟩ := steady.number List.mem_cons_self
      obtain ⟨total', publish', created'⟩ := steady_rest.number List.mem_cons_self
      obtain ⟨total'', publish'', created''⟩ := steady_rest.number last_mem
      rw [closes, List.getLastD_cons]
      exact ⟨accumulated_cons total total' total'' requests rest.requests,
        accumulated_cons publish publish' publish'' publishes rest.publishes,
        accumulated_cons created created' created'' orders rest.orders⟩

/-- Calls one after another. -/
lemma run_append {source : MetricsSource} {calls more : List Call} :
    (run source (calls ++ more)).1 = (run (run source calls).1 more).1 := by
  induction calls generalizing source with
  | nil => rfl
  | cons call calls ih => exact ih

/-- The endpoint stays through a run. -/
lemma run_url {source : MetricsSource} {calls : List Call} :
    (run source calls).1.url = source.url := by
  induction calls generalizing source with
  | nil => rfl
  | cons call calls ih => exact ih.trans nextWindow_url

/-- A failed scrape keeps the previous one; the windows of a run are in order; and over a stretch
without resets that starts with a successful scrape, the rates of the windows add up to the growth of
the counters up to the last successful scrape. -/
theorem nextWindow_conserves :
    (∀ source call e, scrape source.url call.response = .error e →
      nextWindow source call = (source, .error e)) ∧
    (∀ url calls, calls.Pairwise (fun a b => a.now ≤ b.now ∧ a.wall ≤ b.wall) →
      InOrder (windows { url := url } calls)) ∧
    ∀ url before call first stretch,
      (before ++ call :: stretch).Pairwise (fun a b => a.now ≤ b.now ∧ a.wall ≤ b.wall) →
      scrape url call.response = .ok first →
      .ok none ∉ (run (run { url := url } (before ++ [call])).1 stretch).2 →
      Steady (first :: snapshots url stretch) →
      Conserved (windows (run { url := url } (before ++ [call])).1 stretch) first
        ((snapshots url stretch).getLastD first) := by
  refine ⟨fun source call e => nextWindow_of_error, ?_, ?_⟩
  · intro url calls clocks
    exact (inOrder_windows (clocks.imp And.right) fun _ none => by cases none).1
  · intro url before call first stretch _ scraped valid steady
    have here : (run { url := url } before).1.url = url := run_url
    have state : (run { url := url } (before ++ [call])).1 =
        ⟨url, some first, some call.now, some call.wall⟩ := by
      rw [run_append]
      show (nextWindow _ call).1 = _
      rw [nextWindow_fst (here.symm ▸ scraped), here]
    rw [state] at valid ⊢
    exact conserved_windows rfl rfl rfl steady valid

/-- Four requests around a scrape that fails are in the one window that is returned. -/
theorem nextWindow_conserves_failure :
    Conserved (windows (run { url := "u" } [⟨0, 0, .metrics started.snapshot, 1⟩]).1
        [⟨10, 10, .httpError "refused", 11⟩, ⟨20, 20, .metrics afterFour.snapshot, 21⟩])
      started.snapshot afterFour.snapshot := by
  have grows : started.Grows afterFour := by constructor <;> decide
  have steady : Steady [started.snapshot, afterFour.snapshot] := by
    refine ⟨?_, List.isChain_pair.mpr ?_⟩
    · simp [cumulativeFields, Counters.snapshot]
    · decide +kernel
  have valid : Except.ok none ∉ (run (run { url := "u" } [⟨0, 0, .metrics started.snapshot, 1⟩]).1
      [⟨10, 10, .httpError "refused", 11⟩, ⟨20, 20, .metrics afterFour.snapshot, 21⟩]).2 := by
    obtain ⟨s, signals, -⟩ := @exists_signals started afterFour (20 - 0) grows (by norm_num)
    intro mem
    obtain same | mem := List.mem_cons.mp mem
    · cases same
    · have closes := @nextWindow_ok started.snapshot afterFour.snapshot
        ⟨"u", some started.snapshot, some 0, some 0⟩ ⟨20, 20, .metrics afterFour.snapshot, 21⟩ 0 0
        rfl rfl rfl rfl
      rw [signals] at closes
      have same := (List.mem_singleton.mp mem).trans closes
      cases same
  exact nextWindow_conserves.2.2 "u" [] ⟨0, 0, .metrics started.snapshot, 1⟩ started.snapshot
    [⟨10, 10, .httpError "refused", 11⟩, ⟨20, 20, .metrics afterFour.snapshot, 21⟩] (by decide) rfl
    valid steady

end

end SentinelOps.AnomalyDetector
