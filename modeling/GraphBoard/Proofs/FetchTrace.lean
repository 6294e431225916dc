import GraphBoard.Proofs.Fetches

set_option autoImplicit false

namespace GraphBoard

open GraphBoard.Http

/-- The calls that ask for addresses one after the other. Only the first address of a viewer
outside of the board makes one. -/
def fetchTrace (hasPlot : Bool) (kind : ViewerKind) (container : String) :
    List String → List Call
  | [] => []
  | url :: later =>
    if hasPlot then
      match kind with
      | .chart => (url :: later).map fun url => .get (Job.seriesUrl url)
      | .outside => .attach container url :: later.map .refresh
    else (url :: later).map .get

namespace Content

def Suits (hasPlot : Bool) (kind : ViewerKind) (urls : List String) : Content → Prop
  | picture _ _ => hasPlot = false
  | plot none => hasPlot = true ∧ urls = []
  | plot (some (.chart _)) => hasPlot = true ∧ kind = .chart ∧ urls ≠ []
  | plot (some (.outside _)) => hasPlot = true ∧ kind = .outside ∧ urls ≠ []

variable {hasPlot : Bool} {kind : ViewerKind} {urls : List String} {content : Content}

theorem suits_offline : content.offline.Suits hasPlot kind urls ↔
    content.Suits hasPlot kind urls := by
  cases content with
  | picture shown pending => rfl
  | plot viewer =>
    cases viewer with
    | none => rfl
    | some viewer => cases viewer <;> rfl

theorem Suits.request (h : content.Suits hasPlot kind urls) (container url : String) :
    (content.request container url kind).1.Suits hasPlot kind (urls ++ [url]) := by
  have hne : urls ++ [url] ≠ [] := List.append_ne_nil_of_right_ne_nil _ (List.cons_ne_nil _ _)
  cases content with
  | picture shown pending => exact h
  | plot viewer =>
    cases viewer with
    | none => cases kind <;> exact ⟨h.1, rfl, hne⟩
    | some viewer => cases viewer <;> exact ⟨h.1, h.2.1, hne⟩

theorem Suits.fetchTrace_append (h : content.Suits hasPlot kind urls) (container url : String) :
    fetchTrace hasPlot kind container (urls ++ [url]) =
      fetchTrace hasPlot kind container urls ++ [content.fetch container url kind] := by
  cases content with
  | picture shown pending =>
    have hpicture : hasPlot = false := h
    cases urls <;> simp [fetchTrace, hpicture, fetch]
  | plot viewer =>
    cases viewer with
    | none =>
      obtain ⟨hplot, rfl⟩ := h
      cases kind <;> simp [fetchTrace, hplot, fetch]
    | some viewer =>
      cases viewer with
      | chart feed =>
        obtain ⟨hplot, rfl, hne⟩ := h
        cases urls <;> simp_all [fetchTrace, fetch]
      | outside old =>
        obtain ⟨hplot, rfl, hne⟩ := h
        cases urls <;> simp_all [fetchTrace, fetch]

theorem suits_bare (c : Container) (sources : String) (handle : Option String)
    (setting : Setting) :
    (Panel.bare c sources handle setting).content.Suits c.hasPlot setting.viewer [] := by
  change (if c.hasPlot then plot none else .picture .nothing 0).Suits _ _ _
  cases hplot : c.hasPlot
  · exact rfl
  · exact ⟨rfl, rfl⟩

end Content

namespace Session

def askedBy (s : Session) : Move → List String
  | .operate operation =>
    if s.panel.asks operation then [(s.panel.operate operation).1.url] else []
  | .answer _ _ => []
  | .poll => []

def asked (s : Session) : List Move → List String
  | [] => []
  | move :: moves => s.askedBy move ++ (s.step move).asked moves

/-- The session of a panel made for a container that has asked for addresses so far. -/
structure Asking (c : Container) (setting : Setting) (s : Session) (urls : List String) : Prop where
  same_id : s.panel.id = c.id
  same_setting : s.panel.setting = setting
  content : s.panel.content.Suits c.hasPlot setting.viewer urls
  calls : s.calls.filter Call.isFetch = fetchTrace c.hasPlot setting.viewer c.id urls
  currentUrl : s.panel.currentUrl = urls.getLast?

section
variable {c : Container} {setting : Setting} {s t : Session} {urls : List String}

theorem Asking.of_offline (h : s.Asking c setting urls) (hpanel : t.panel.offline = s.panel.offline)
    (hcalls : t.calls.filter Call.isFetch = s.calls.filter Call.isFetch) :
    t.Asking c setting urls where
  same_id := (Panel.id_of_offline hpanel).trans h.same_id
  same_setting := (Panel.setting_of_offline hpanel).trans h.same_setting
  content := by
    rw [← Content.suits_offline, Panel.content_of_offline hpanel, Content.suits_offline]
    exact h.content
  calls := hcalls.trans h.calls
  currentUrl := (Panel.currentUrl_of_offline hpanel).trans h.currentUrl

theorem Asking.hasPlot (h : s.Asking c setting urls) : s.panel.hasPlot = c.hasPlot := by
  have hcontent := h.content
  cases hp : s.panel.content with
  | picture shown pending =>
    rw [hp] at hcontent
    simpa only [Panel.hasPlot, hp] using hcontent.symm
  | plot viewer =>
    have hplot : c.hasPlot = true := by
      rw [hp] at hcontent
      cases viewer with
      | none => exact hcontent.1
      | some viewer => cases viewer <;> exact hcontent.1
    simp only [Panel.hasPlot, hp, hplot]

theorem Asking.perform (h : s.Asking c setting urls) {done : Panel × List Effect}
    (hid : done.1.id = s.panel.id) (hsetting : done.1.setting = s.panel.setting)
    (hquiet : s.panel.Quiet done) : (s.perform done).Asking c setting urls where
  same_id := hid.trans h.same_id
  same_setting := hsetting.trans h.same_setting
  content := by
    change done.1.content.Suits _ _ _
    rw [hquiet.content]
    exact h.content
  calls := by
    change (s.calls ++ done.2.filterMap Effect.call?).filter Call.isFetch = _
    rw [List.filter_append, h.calls]
    change _ ++ fetches done.2 = _
    rw [hquiet.fetches, List.append_nil]
  currentUrl := hquiet.currentUrl.trans h.currentUrl

theorem Asking.perform_asked (h : s.Asking c setting urls) {done : Panel × List Effect}
    (hid : done.1.id = s.panel.id) (hsetting : done.1.setting = s.panel.setting)
    (hasked : s.panel.Asked done) :
    (s.perform done).Asking c setting (urls ++ [done.1.url]) where
  same_id := hid.trans h.same_id
  same_setting := hsetting.trans h.same_setting
  content := by
    change done.1.content.Suits _ _ _
    rw [hasked.content, h.same_setting]
    exact h.content.request s.panel.id done.1.url
  calls := by
    change (s.calls ++ done.2.filterMap Effect.call?).filter Call.isFetch = _
    rw [List.filter_append, h.calls, h.content.fetchTrace_append c.id done.1.url]
    change _ ++ fetches done.2 = _
    rw [hasked.fetches, h.same_id, h.same_setting]
  currentUrl := by
    change done.1.currentUrl = _
    rw [hasked.currentUrl, List.getLast?_append, List.getLast?_singleton, Option.some_or]

theorem Asking.operate (h : s.Asking c setting urls) (operation : Operation) :
    (s.step (.operate operation)).Asking c setting (urls ++ s.askedBy (.operate operation)) := by
  have hid := s.panel.operate_id operation
  have hsetting := s.panel.operate_setting operation
  have hrule := s.panel.operate_follows operation
  cases hasks : s.panel.asks operation with
  | false =>
    simp only [Panel.Follows, hasks, Bool.false_eq_true, ↓reduceIte] at hrule
    simpa only [step, askedBy, hasks, Bool.false_eq_true, ↓reduceIte, List.append_nil] using
      h.perform hid hsetting hrule
  | true =>
    simp only [Panel.Follows, hasks, ↓reduceIte] at hrule
    simpa only [step, askedBy, hasks, ↓reduceIte] using h.perform_asked hid hsetting hrule

theorem Asking.answer (h : s.Asking c setting urls) (place : Nat) (server : Server) :
    (s.answer place server).Asking c setting urls := by
  have hanswered := s.answered place server
  generalize s.answer place server = t at hanswered
  cases hanswered with
  | nobody => exact h
  | silent at_place ended => exact h.of_offline rfl rfl
  | message at_place ended => exact h.of_offline (s.panel.offline_receive _) rfl
  | onward at_place next =>
    refine h.of_offline rfl ?_
    simp only [List.filter_append, List.filter_cons, Job.isFetch_next next, Bool.false_eq_true,
      ↓reduceIte, List.filter_nil, List.append_nil]

theorem Asking.poll (h : s.Asking c setting urls) : s.poll.Asking c setting urls := by
  rw [poll_eq]
  exact h.of_offline s.panel.offline_poll rfl

theorem Asking.step (h : s.Asking c setting urls) (move : Move) :
    (s.step move).Asking c setting (urls ++ s.askedBy move) := by
  cases move with
  | operate operation => exact h.operate operation
  | answer place server =>
    rw [askedBy, List.append_nil]
    exact h.answer place server
  | poll =>
    rw [askedBy, List.append_nil]
    exact h.poll

theorem Asking.run (h : s.Asking c setting urls) (moves : List Move) :
    (s.run moves).Asking c setting (urls ++ s.asked moves) := by
  induction moves generalizing s urls with
  | nil => simpa only [run_nil, asked, List.append_nil] using h
  | cons move moves ih =>
    simpa only [run_cons, asked, List.append_assoc] using ih (h.step move)

theorem Asking.start {sources : String} {handle : Option String} {made : Panel × List Effect}
    (hnew : Panel.new c sources handle setting = .ok made) :
    (start made).Asking c setting (if handle.isNone then [made.1.url] else []) := by
  let p := Panel.bare c sources handle setting
  have hbare : (⟨p, [], [], [], [], []⟩ : Session).Asking c setting [] :=
    ⟨rfl, rfl, Content.suits_bare c sources handle setting, rfl, rfl⟩
  obtain ⟨line, ⟨rfl, rfl⟩ | ⟨hhandle, rfl⟩⟩ := Panel.new_ok hnew
  · have hasked := p.asked_setUp
    have htold : p.Asked (p.setUp.1, .tell line :: p.setUp.2) :=
      ⟨hasked.fetches, hasked.content, hasked.fresh, hasked.currentUrl⟩
    exact hbare.perform_asked rfl rfl htold
  · rw [if_neg (by simpa [Option.isSome_iff_ne_none] using hhandle)]
    exact hbare.perform rfl rfl (p.quiet_remark [line])

end

end Session

/-- The calls for graphs are those of the rule, each for the address that is chosen after its
operation; what was asked for is then no longer due. A viewer is made by the first of them only. -/
theorem graph_calls_run {c : Container} {sources : String} {handle : Option String}
    {setting : Setting} {made : Panel × List Effect}
    (hnew : Panel.new c sources handle setting = .ok made) (moves : List Move) :
    let s := Session.start made
    (s.run moves).calls.filter Call.isFetch =
        fetchTrace c.hasPlot setting.viewer c.id
          ((if handle.isNone then [made.1.url] else []) ++ s.asked moves) ∧
      (handle.isNone → made.1.shouldReload = false) ∧
      ∀ operation,
        let p := (s.run moves).panel
        let q := (p.operate operation).1
        (p.asks operation = true → q.shouldReload = false ∧ (c.hasPlot = true →
          q.viewer? = some (Viewer.after p.viewer? c.id q.url setting.viewer))) ∧
        (p.asks operation = false → q.viewer? = p.viewer?) := by
  intro s
  have hrun := (Session.Asking.start hnew).run moves
  refine ⟨hrun.calls, ?_, ?_⟩
  · intro hhandle
    obtain ⟨line, ⟨rfl, rfl⟩ | ⟨hsome, rfl⟩⟩ := Panel.new_ok hnew
    · exact (Panel.asked_setUp _).fresh
    · simp_all
  · intro operation p q
    have hrule := p.operate_follows operation
    refine ⟨fun hasks => ?_, fun hasks => ?_⟩
    · rw [Panel.Follows, if_pos hasks] at hrule
      refine ⟨hrule.fresh, fun hplot => ?_⟩
      rw [← hrun.same_id, ← hrun.same_setting]
      exact hrule.viewer (hrun.hasPlot.trans hplot)
    · rw [Panel.Follows, if_neg (by simp [hasks])] at hrule
      exact hrule.viewer

theorem graph_calls_plot :
    let c := Container.new "octets" "Octets" true
    let setting : Setting := ⟨.standard, "/", .outside⟩
    let made := Panel.make c "a;b" none setting
    Panel.new c "a;b" none setting = .ok made ∧
      ((Session.start made).run [.operate (.selectRange .week), .operate (.selectSource 1), .poll,
          .operate .close, .operate .openUp, .operate .openUp]).calls.filter Call.isFetch =
        [.attach "octets" "a?timeframe=day", .refresh "a?timeframe=week",
          .refresh "b?timeframe=week"] := by
  intro c setting made
  have hnew : Panel.new c "a;b" none setting = .ok made := rfl
  refine ⟨hnew, ?_⟩
  rw [(graph_calls_run hnew _).1]
  decide

end GraphBoard
