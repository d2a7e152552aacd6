import SolarCharts.Proofs.Chart.Rejection
import SolarCharts.Proofs.Csv.Faults
import SolarCharts.Proofs.Store.Connection

/-!
# When a run acts

A run acts on what is around it twice: it asks the store, and it writes charts. It asks at most once,
and not before everything that can be checked without the store is checked; it writes nothing unless
every row of the answer is a sample and no chart is refused beforehand.

* `Plan.exists_of_iff` — a run has a plan exactly when its own checks pass.
* `run_sent` — what is asked, told by a sender that keeps a list of the requests and may answer each by
  all that came before it.
* `cleared_of_files_ne` — what a run has in hand by the time it touches a file.
* `run_effects` — all of it, for either command.
-/

namespace SolarCharts

open Http (Request)

/-! ## The checks of a run -/

/-- The length of time that a command needs, when it can be read: the window that it names, or else
what is set. -/
def Command.length? (settings : Settings) : Command → Option Duration
  | .mppt _ => DurationText.ofText? (Text.trim (settings.value .timeOffset))
  | .sweep (some window) => some window
  | .sweep none => DurationText.ofText? (Text.trim (settings.value .window))

/-- Everything that a run checks by itself. -/
structure Invocation.Checked (invocation : Invocation) (settings : Settings) : Prop where
  length : ∃ length, invocation.command.length? settings = some length ∧ length.nanos ≤ Span.limit
  size : (Size.ofText? invocation.size).isSome
  named : ∀ key ∈ [Key.url, .token, .org], Text.isAllBlank (settings.value key) = false
  timeout : (DurationText.ofText? (Text.trim (settings.value .timeout))).isSome

section

variable {command : Command} {settings : Settings} {length : Duration}

/-- A length that makes a span is short enough for one. -/
theorem Span.nanos_le_limit (h : Span.ofDuration? length ≠ none) : length.nanos ≤ Span.limit := by
  by_contra hLong
  rw [Span.ofDuration?, if_neg hLong] at h
  exact h rfl

/-- A command that settles how samples are charted has the length that it needs. -/
theorem Command.length_of_drawing {drawing : Drawing} (h : command.drawing settings = .ok drawing) :
    ∃ length, command.length? settings = some length ∧ length.nanos ≤ Span.limit := by
  cases command with
  | mppt every =>
    obtain ⟨length, hRead, hDrawing⟩ := bind_eq_ok_iff.mp h
    rw [mapError_eq_ok_iff, Settings.duration_eq_ok_iff] at hRead
    exact ⟨length, hRead, Span.nanos_le_limit fun hNone => by simp [hNone] at hDrawing⟩
  | sweep window =>
    cases window with
    | some window =>
      -- the window that is named is not read, but it may be too long all the same
      refine ⟨window, rfl, Span.nanos_le_limit fun hNone => ?_⟩
      simp [Command.drawing, hNone, bind, Except.bind] at h
    | none =>
      obtain ⟨length, hRead, hDrawing⟩ := bind_eq_ok_iff.mp h
      rw [mapError_eq_ok_iff, Settings.duration_eq_ok_iff] at hRead
      exact ⟨length, hRead, Span.nanos_le_limit fun hNone => by simp [hNone] at hDrawing⟩

/-- With a length that is short enough, it does settle it. -/
theorem Command.exists_drawing (h : command.length? settings = some length)
    (hShort : length.nanos ≤ Span.limit) : ∃ drawing, command.drawing settings = .ok drawing := by
  have hSpan : Span.ofDuration? length = some ⟨length.nanos⟩ := by
    rw [Span.ofDuration?, if_pos hShort]
  -- the offset is read from the settings, and the window too unless it is named
  cases command with
  | mppt every =>
    have hRead : settings.duration .timeOffset = .ok length := Settings.duration_eq_ok_iff.mpr h
    refine ⟨.traces ⟨length.nanos⟩, bind_eq_ok_iff.mpr ⟨length, mapError_eq_ok_iff.mpr hRead, ?_⟩⟩
    simp [hSpan]
  | sweep window =>
    refine ⟨.sweeps ⟨length.nanos⟩, ?_⟩
    cases window with
    | some window =>
      cases h
      simp [Command.drawing, hSpan, bind, Except.bind]
    | none =>
      have hRead : settings.duration .window = .ok length := Settings.duration_eq_ok_iff.mpr h
      refine bind_eq_ok_iff.mpr ⟨length, mapError_eq_ok_iff.mpr hRead, ?_⟩
      simp [hSpan]

end

section

variable {invocation : Invocation} {settings : Settings}

/-- There are options for charts exactly if the size can be read. -/
theorem Invocation.exists_chartOptions_iff :
    (∃ options, invocation.chartOptions = .ok options) ↔ (Size.ofText? invocation.size).isSome := by
  unfold Invocation.chartOptions
  cases Size.ofText? invocation.size <;> simp

/-- A run has a plan exactly when everything that it checks by itself is in order. -/
theorem Plan.exists_of_iff :
    (∃ plan, Plan.of invocation settings = .ok plan) ↔ invocation.Checked settings := by
  constructor
  · rintro ⟨plan, h⟩
    simp only [Plan.of, bind_eq_ok_iff, mapError_eq_ok_iff] at h
    obtain ⟨drawing, hDrawing, options, hOptions, connection, hConnection, -⟩ := h
    -- each part of the plan comes from a check that passed
    have hSettings := Connection.exists_ofSettings_iff.mp ⟨connection, hConnection⟩
    exact
      { length := Command.length_of_drawing hDrawing
        size := Invocation.exists_chartOptions_iff.mp ⟨options, hOptions⟩
        named := hSettings.1
        timeout := hSettings.2 }
  · intro h
    obtain ⟨length, hLength, hShort⟩ := h.length
    obtain ⟨drawing, hDrawing⟩ := Command.exists_drawing hLength hShort
    obtain ⟨options, hOptions⟩ := Invocation.exists_chartOptions_iff.mpr h.size
    obtain ⟨connection, hConnection⟩ := Connection.exists_ofSettings_iff.mpr ⟨h.named, h.timeout⟩
    refine ⟨⟨drawing, options, connection, invocation.query settings⟩, ?_⟩
    simp only [Plan.of, bind_eq_ok_iff, mapError_eq_ok_iff]
    exact ⟨drawing, hDrawing, options, hOptions, connection, hConnection, rfl⟩

/-- What sends a request has passed the checks of the run. -/
theorem Invocation.checked_of_request {request : Request}
    (h : invocation.request? settings = some request) : invocation.Checked settings := by
  rw [← Plan.exists_of_iff]
  cases hPlan : Plan.of invocation settings with
  | error e => simp [Invocation.request?, hPlan] at h
  | ok plan => exact ⟨plan, rfl⟩

/-! ## Requests -/

/-- A store that may answer a request by all the requests before it, which are kept in a list. -/
abbrev Server := List Request → Request → Store.Received

/-- Answers a request, and keeps it in the list. -/
def Server.send (server : Server) (request : Request) : StateM (List Request) Store.Received := do
  let sent ← get
  set (sent ++ [request])
  return server sent request

/-- A run sends its one request, or none. -/
theorem run_sent (invocation : Invocation) (settings : Settings) (files : FileTree) (server : Server)
    (sent : List Request) :
    (invocation.runIn settings files server.send).run sent =
      (invocation.run settings files (server sent),
        sent ++ (invocation.request? settings).toList) := by
  unfold Invocation.run Invocation.runIn Invocation.request?
  cases hPlan : Plan.of invocation settings with
  | error e =>
    -- without a plan the list stays as it is
    show _ = (_, sent ++ [])
    rw [List.append_nil]
    rfl
  | ok plan =>
    simp only [Plan.runIn]
    cases hRequest : plan.request with
    | error e =>
      -- so it does for a URL or a token that makes no request
      show _ = (_, sent ++ [])
      rw [List.append_nil]
      rfl
    | ok request => rfl

/-! ## Files -/

/-- What a run has come to by the time it touches a file: its request was answered with a success, every
row of the answer is a sample, and no chart is refused beforehand. -/
inductive Invocation.Cleared (invocation : Invocation) (settings : Settings) (files : FileTree)
    (exchange : Request → Store.Received) : Prop
  | intro {plan : Plan} {request : Request} {response : Http.Response} {text : String}
      {samples : List Sample} {charts : List Chart}
      (hPlan : Plan.of invocation settings = .ok plan)
      (hRequest : plan.request = .ok request)
      (hResponse : exchange request = .ok response)
      (hSuccess : 200 ≤ response.status ∧ response.status < 300)
      (hText : response.text? = some text)
      (hItems : Csv.itemsOf (Utf8.encode text) = samples.map .ok)
      (hCharts : plan.charts (.ofList samples) = .ok charts)
      (hCheck : (Gallery.new plan.options files).check (Gallery.targetsOf charts) = .ok ())

/-- Text comes from a response that is a success. -/
theorem Store.Received.response_of_text {received : Store.Received} {text : String}
    (h : received.text = .ok text) :
    ∃ response, received = .ok response ∧ response.isSuccess = true ∧
      response.text? = some text := by
  cases received with
  | error e => cases h
  | ok response =>
    rw [Store.Received.text, Store.textOf] at h
    -- any other response is an error, and so is one whose text cannot be read
    by_cases hSuccess : response.isSuccess = true
    · rw [if_pos hSuccess] at h
      cases hText : response.text? with
      | none => simp [hText] at h
      | some found =>
        rw [hText] at h
        exact ⟨response, rfl, hSuccess, by rw [hText, Except.ok.inj h]⟩
    · rw [if_neg hSuccess] at h
      cases h

/-- Samples come from a text all of whose items are samples. -/
theorem Store.Received.text_of_samples {received : Store.Received} {samples : List Sample}
    (h : received.samples = .ok samples) :
    ∃ text, received.text = .ok text ∧ Csv.itemsOf (Utf8.encode text) = samples.map .ok := by
  rw [Store.Received.samples] at h
  cases hText : received.text with
  | error e => simp [hText] at h
  | ok text =>
    rw [hText] at h
    exact ⟨text, rfl, Csv.collect_eq_ok_iff.mp (mapError_eq_ok_iff.mp h)⟩

/-- Hosts come from a success, every row of which is a sample. -/
theorem Plan.received_of_hosts {plan : Plan} {received : Store.Received} {hosts : HostSeries}
    (h : plan.hosts received = .ok hosts) :
    ∃ response text samples, received = .ok response ∧
      (200 ≤ response.status ∧ response.status < 300) ∧ response.text? = some text ∧
      Csv.itemsOf (Utf8.encode text) = samples.map .ok ∧ hosts = .ofList samples := by
  rw [Plan.hosts, hostsIn] at h
  cases hSamples : received.samples with
  | error e => simp [hSamples] at h
  | ok samples =>
    rw [hSamples] at h
    obtain ⟨text, hReceived, hItems⟩ := Store.Received.text_of_samples hSamples
    obtain ⟨response, rfl, hSuccess, hText⟩ := Store.Received.response_of_text hReceived
    refine ⟨response, text, samples, rfl, ?_, hText, hItems, (Except.ok.inj h).symm⟩
    simpa [Http.Response.isSuccess] using hSuccess

/-- A run that ends before the first chart is drawn leaves the files as they are. -/
theorem Plan.charts_of_files_ne {plan : Plan} {files : FileTree} {received : Store.Received}
    (h : (plan.finish files received).files ≠ files) :
    ∃ hosts charts, plan.hosts received = .ok hosts ∧ plan.charts hosts = .ok charts ∧
      (Gallery.new plan.options files).check (Gallery.targetsOf charts) = .ok () := by
  -- the files of a run are those of its gallery, whether it fails or not
  have hKept : ∀ hosts, plan.hosts received = .ok hosts →
      (plan.draw (.new plan.options files) hosts).1.files = files →
        (plan.finish files received).files = files := by
    intro hosts hHosts hFiles
    unfold Plan.finish
    rcases hDraw : plan.draw (.new plan.options files) hosts with ⟨gallery, e | _⟩
    · simpa [hHosts, hDraw] using hFiles
    · simpa [hHosts, hDraw] using hFiles
  cases hHosts : plan.hosts received with
  | error e => exact absurd (by unfold Plan.finish; rw [hHosts]) h
  | ok hosts =>
    cases hCharts : plan.charts hosts with
    | error e => exact absurd (hKept hosts hHosts (by rw [Plan.draw_of_charts_error hCharts]; rfl)) h
    | ok charts =>
      cases hCheck : (Gallery.new plan.options files).check (Gallery.targetsOf charts) with
      | ok _ => exact ⟨hosts, charts, rfl, hCharts, hCheck⟩
      | error e =>
        refine absurd (hKept hosts hHosts ?_) h
        rw [Plan.draw_of_charts hCharts, Gallery.drawCharts, Gallery.drawRun, hCheck]
        rfl

/-- A run that touches a file has come through everything before. -/
theorem cleared_of_files_ne {files : FileTree} {exchange : Request → Store.Received}
    (h : (invocation.run settings files exchange).files ≠ files) :
    invocation.Cleared settings files exchange := by
  unfold Invocation.run Invocation.runIn at h
  cases hPlan : Plan.of invocation settings with
  -- a run without a plan leaves the files alone, as does one that makes no request
  | error e => exact absurd (by rw [hPlan]; rfl) h
  | ok plan =>
    simp only [hPlan, Plan.runIn] at h
    cases hRequest : plan.request with
    | error e =>
      rw [hRequest] at h
      exact absurd rfl h
    | ok request =>
      rw [hRequest] at h
      obtain ⟨hosts, charts, hHosts, hCharts, hCheck⟩ := Plan.charts_of_files_ne h
      obtain ⟨response, text, samples, hResponse, hSuccess, hText, hItems, rfl⟩ :=
        Plan.received_of_hosts hHosts
      exact .intro hPlan hRequest hResponse hSuccess hText hItems hCharts hCheck

/-! ## A window that is named -/

/-- A window that is named with the command makes that of the settings irrelevant to the plan. -/
theorem Plan.of_congr_window {settings' : Settings} {window : Duration}
    (hCommand : invocation.command = .sweep (some window))
    (hOther : ∀ key, key ≠ .window → settings'.value key = settings.value key) :
    Plan.of invocation settings' = Plan.of invocation settings := by
  -- the drawing looks at no setting, and the rest of the plan at others
  have hDrawing : invocation.command.drawing settings' = invocation.command.drawing settings := by
    rw [hCommand]
    rfl
  have hCheck : settings'.check = settings.check := by
    simp [Settings.check, Settings.firstBlank?, Settings.neededKeys, List.find?_cons, hOther]
  have hConnection : Connection.ofSettings settings' = Connection.ofSettings settings := by
    simp [Connection.ofSettings, Settings.duration, hCheck, hOther]
  have hQuery : invocation.query settings' = invocation.query settings := by
    simp [Invocation.query, Invocation.baseQuery, hOther]
  unfold Plan.of
  rw [hDrawing, hConnection, hQuery]

/-- **When a run acts.** Whatever answers it and whatever was sent before, a run sends one request or
none, and none unless its own checks pass. It leaves the files as they are unless it has come so far that
nothing but the drawing of charts is left. A window that is named with the command makes the window of
the settings irrelevant to all that it does. -/
theorem run_effects (invocation : Invocation) (settings : Settings) (files : FileTree) :
    (∀ (server : Server) (sent : List Request),
        (invocation.runIn settings files server.send).run sent =
          (invocation.run settings files (server sent),
            sent ++ (invocation.request? settings).toList)) ∧
      (∀ request, invocation.request? settings = some request → invocation.Checked settings) ∧
      (∀ exchange, (invocation.run settings files exchange).files ≠ files →
        invocation.Cleared settings files exchange) ∧
      ∀ window, invocation.command = .sweep (some window) → ∀ settings' : Settings,
        (∀ key, key ≠ .window → settings'.value key = settings.value key) →
          (∀ (m : Type → Type) [Monad m] (send : Request → m Store.Received),
            invocation.runIn settings' files send = invocation.runIn settings files send) ∧
            invocation.request? settings' = invocation.request? settings := by
  refine ⟨run_sent invocation settings files, fun _ => Invocation.checked_of_request,
    fun _ => cleared_of_files_ne, ?_⟩
  intro window hCommand settings' hOther
  have hPlan := Plan.of_congr_window hCommand hOther
  refine ⟨fun m _ send => ?_, ?_⟩
  · unfold Invocation.runIn
    rw [hPlan]
  · unfold Invocation.request?
    rw [hPlan]

end

end SolarCharts
