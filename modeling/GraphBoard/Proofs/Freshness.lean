import GraphBoard.Proofs.FetchTrace

set_option autoImplicit false

namespace GraphBoard
namespace Panel

/-- Either nothing is on record of a load, or all of it, for the range that is chosen. -/
structure Recorded (p : Panel) : Prop where
  load : (p.lastIndex = none ∧ p.lastRange = none ∧ p.currentUrl = none) ∨
    ∃ (i : Nat) (h : i < p.sources.length), p.lastIndex = some i ∧ p.lastRange = some p.range ∧
      p.currentUrl = some (urlOf p.sources[i] p.range)
  viewer : p.hasPlot = true → p.viewer?.map Viewer.url = p.currentUrl

variable (p : Panel)

theorem recorded_load : p.load.1.Recorded where
  load := .inr ⟨p.active, p.active_lt, rfl, rfl, rfl⟩
  viewer := by
    intro hplot
    cases hcontent : p.content with
    | picture shown pending =>
      have hnone : p.load.1.hasPlot = false := by
        simp only [hasPlot, load_content, hcontent, Content.request_picture]
      rw [hnone] at hplot
      contradiction
    | plot viewer =>
      simp only [viewer?, load_content, hcontent, Content.request_plot, Option.map_some,
        Viewer.url_after, load_currentUrl]

theorem recorded_bare (c : Container) (sources : String) (handle : Option String)
    (setting : Setting) : (bare c sources handle setting).Recorded where
  load := .inl ⟨rfl, rfl, rfl⟩
  viewer := by
    intro hplot
    cases hc : c.hasPlot <;> simp_all [hasPlot, viewer?, bare]

theorem recorded_offline : p.offline.Recorded ↔ p.Recorded := by
  constructor
  · intro h
    exact ⟨h.load, fun hplot => by
      rw [← viewerUrl_offline]
      exact h.viewer (p.hasPlot_offline.trans hplot)⟩
  · intro h
    exact ⟨h.load, fun hplot => by
      rw [viewerUrl_offline]
      exact h.viewer (p.hasPlot_offline.symm.trans hplot)⟩

variable {p}

theorem Recorded.operate (h : p.Recorded) (operation : Operation) :
    (p.operate operation).1.Recorded := by
  have houtcome := p.operate_outcome operation
  generalize p.operate operation = done at houtcome
  cases houtcome with
  | remark lines => exact h
  | probe url controls displayed => exact h
  | close => exact ⟨h.load, h.viewer⟩
  | choose index index_lt => exact ⟨h.load, h.viewer⟩
  | reveal initialized fresh => exact ⟨h.load, h.viewer⟩
  | reload initialized stale =>
    have hload := p.recorded_load
    exact ⟨hload.load, hload.viewer⟩
  | setUp initialized =>
    have hload := recorded_load { p with controls := some .new }
    exact ⟨hload.load, hload.viewer⟩
  | range range => exact recorded_load { p with range }

theorem Recorded.loaded_eq_none (h : p.Recorded) : p.loaded = none ↔ p.currentUrl = none := by
  obtain ⟨hindex, hrange, hurl⟩ | ⟨i, hi, hindex, hrange, hurl⟩ := h.load
  · simp [loaded, hindex, hurl]
  · simp [loaded, hindex, hrange, hurl]

/-- The range that is chosen is never the reason to load again. -/
theorem Recorded.shouldReload_iff (h : p.Recorded) :
    p.shouldReload = true ↔ p.loaded = none ∨ p.lastIndex ≠ some p.active := by
  obtain ⟨hindex, hrange, hurl⟩ | ⟨i, hi, hindex, hrange, hurl⟩ := h.load
  · simp [shouldReload, loaded, hindex, hrange]
  · simp [shouldReload, loaded, hindex, hrange, hurl]

theorem Recorded.currentUrl_of_fresh (h : p.Recorded) (hfresh : p.shouldReload = false) :
    p.currentUrl = some p.url := by
  obtain ⟨hindex, hrange, hurl⟩ | ⟨i, hi, hindex, hrange, hurl⟩ := h.load
  · simp [shouldReload, hrange] at hfresh
  · have hactive : i = p.active := by simpa [shouldReload, hrange, hindex] using hfresh
    subst hactive
    exact hurl

theorem viewer?_eq_none (hplot : p.hasPlot = false) : p.viewer? = none := by
  cases hcontent : p.content with
  | picture shown pending => simp only [viewer?, hcontent]
  | plot viewer => simp [hasPlot, hcontent] at hplot

theorem Recorded.displayedUrl (h : p.Recorded) : p.displayedUrl = p.currentUrl := by
  cases hplot : p.hasPlot with
  | false => rw [Panel.displayedUrl, viewer?_eq_none hplot, Option.map_none, Option.none_or]
  | true => rw [Panel.displayedUrl, h.viewer hplot, Option.or_self]

end Panel

theorem fetchTrace_eq_nil {hasPlot : Bool} {kind : ViewerKind} {container : String}
    {urls : List String} : fetchTrace hasPlot kind container urls = [] ↔ urls = [] := by
  cases urls with
  | nil => simp only [fetchTrace]
  | cons url later => cases hasPlot <;> cases kind <;> simp [fetchTrace]

namespace Session

theorem recorded_start {c : Container} {sources : String} {handle : Option String}
    {setting : Setting} {made : Panel × List Effect}
    (hnew : Panel.new c sources handle setting = .ok made) : (start made).panel.Recorded := by
  obtain ⟨line, ⟨-, rfl⟩ | ⟨-, rfl⟩⟩ := Panel.new_ok hnew
  · have hload := Panel.recorded_load
      { Panel.bare c sources handle setting with controls := some .new }
    exact ⟨hload.load, hload.viewer⟩
  · exact Panel.recorded_bare c sources handle setting

theorem recorded_run {s : Session} (h : s.panel.Recorded) (moves : List Move) :
    (s.run moves).panel.Recorded := by
  refine panel_run (fun p q hoffline hp => ?_) (fun p operation hp => hp.operate operation) h moves
  rw [← Panel.recorded_offline, hoffline]
  exact p.recorded_offline.2 hp

end Session

/-- What a panel has on record of its last load is all there or not at all, and is of one of its
sources over the range that is chosen. It is there once a graph has been asked for; it is out of
date only when another source was chosen since. A viewer is there for exactly the address on
record. -/
theorem freshness_run {c : Container} {sources : String} {handle : Option String}
    {setting : Setting} {made : Panel × List Effect}
    (hnew : Panel.new c sources handle setting = .ok made) (moves : List Move) :
    let s := (Session.start made).run moves
    let p := s.panel
    p.sources ≠ [] ∧ p.active < p.sources.length ∧
      ((p.lastIndex = none ∧ p.lastRange = none ∧ p.currentUrl = none) ∨
        ∃ (i : Nat) (h : i < p.sources.length), p.lastIndex = some i ∧ p.lastRange = some p.range ∧
          p.currentUrl = some (Panel.urlOf p.sources[i] p.range)) ∧
      (p.loaded = none ↔ s.calls.filter Call.isFetch = []) ∧
      (p.shouldReload = true ↔ p.loaded = none ∨ p.lastIndex ≠ some p.active) ∧
      (p.shouldReload = false → p.currentUrl = some p.url) ∧
      (c.hasPlot = true → p.viewer?.map Viewer.url = p.currentUrl) ∧
      (c.hasPlot = false → p.viewer? = none) ∧
      p.displayedUrl = p.currentUrl := by
  intro s p
  have hasking := (Session.Asking.start hnew).run moves
  have hrecorded := Session.recorded_run (Session.recorded_start hnew) moves
  refine ⟨List.ne_nil_of_length_pos (Nat.zero_lt_of_lt p.active_lt), p.active_lt, hrecorded.load,
    ?_, hrecorded.shouldReload_iff, hrecorded.currentUrl_of_fresh, ?_, ?_, hrecorded.displayedUrl⟩
  · rw [hrecorded.loaded_eq_none, hasking.calls, fetchTrace_eq_nil, hasking.currentUrl,
      List.getLast?_eq_none_iff]
  · intro hplot
    exact hrecorded.viewer (hasking.hasPlot.trans hplot)
  · intro hplot
    exact Panel.viewer?_eq_none (hasking.hasPlot.trans hplot)

theorem freshness_source_chosen :
    let c := Container.new "octets" "Octets" false
    let made := Panel.make c "a;b" none ⟨.standard, "/", .chart⟩
    let p := ((Session.start made).run
      [.operate (.selectRange .week), .operate (.selectSource 1), .poll]).panel
    Panel.new c "a;b" none ⟨.standard, "/", .chart⟩ = .ok made ∧
      p.shouldReload = true ∧ p.displayedUrl = some "a?timeframe=week" := by
  intro c made p
  have hnew : Panel.new c "a;b" none ⟨.standard, "/", .chart⟩ = .ok made := rfl
  obtain ⟨-, -, -, -, hreload, -, -, -, hdisplayed⟩ := freshness_run hnew
    [.operate (.selectRange .week), .operate (.selectSource 1), .poll]
  refine ⟨hnew, hreload.2 (.inr ?_), hdisplayed.trans ?_⟩
  · decide
  · decide

end GraphBoard
