import GraphBoard.Proofs.Operations

set_option autoImplicit false

namespace GraphBoard

open GraphBoard.Http

namespace Viewer

def offline : Viewer → Viewer
  | chart feed => chart ⟨feed.url, .loading, 0, []⟩
  | outside url => outside url

@[simp] theorem url_offline (viewer : Viewer) : viewer.offline.url = viewer.url := by
  cases viewer <;> rfl

@[simp] theorem offline_offline (viewer : Viewer) : viewer.offline.offline = viewer.offline := by
  cases viewer <;> rfl

end Viewer

def Content.offline : Content → Content
  | picture _ _ => picture .nothing 0
  | plot viewer => plot (viewer.map Viewer.offline)

@[simp] theorem Content.offline_offline (content : Content) :
    content.offline.offline = content.offline := by
  cases content with
  | picture shown pending => rfl
  | plot viewer => cases viewer <;> simp [offline]

def Controls.offline (controls : Controls) : Controls := { controls with publish := .idle }

theorem Controls.offline_offline (controls : Option Controls) :
    (controls.map offline).map offline = controls.map offline := by
  cases controls <;> rfl

namespace Panel

/-- The panel as if nothing had ever come in. -/
def offline (p : Panel) : Panel :=
  { p with
    content := p.content.offline
    controls := p.controls.map Controls.offline
    inbox := [] }

variable (p : Panel)

@[simp] theorem offline_offline : p.offline.offline = p.offline := by
  simp only [offline, Content.offline_offline, Controls.offline_offline]

@[simp] theorem hasPlot_offline : p.offline.hasPlot = p.hasPlot := by
  cases h : p.content <;> simp [hasPlot, offline, Content.offline, h]

theorem viewer?_offline : p.offline.viewer? = p.viewer?.map Viewer.offline := by
  cases h : p.content <;> simp [viewer?, offline, Content.offline, h]

@[simp] theorem viewerUrl_offline :
    p.offline.viewer?.map Viewer.url = p.viewer?.map Viewer.url := by
  rw [viewer?_offline, Option.map_map]
  congr 1
  funext viewer
  exact viewer.url_offline

@[simp] theorem displayedUrl_offline : p.offline.displayedUrl = p.displayedUrl := by
  simp only [displayedUrl, viewerUrl_offline]
  rfl

theorem offline_receive (message : Message) : (p.receive message).offline = p.offline := by
  cases message with
  | notice notice => rfl
  | series url outcome =>
    simp only [receive]
    split
    · rename_i feed hcontent
      simp only [offline, hcontent]
      rfl
    · rfl

theorem offline_showPicture (shown : Shown) : (p.showPicture shown).offline = p.offline := by
  simp only [showPicture]
  split
  · rename_i before pending hcontent
    simp only [offline, hcontent]
    rfl
  · rfl

theorem offline_setPublish (state : PublishState) :
    (p.setPublish state).offline = p.offline := by
  cases h : p.controls <;> simp [setPublish, offline, Controls.offline, h]

theorem offline_apply (notice : Notice) : (p.apply notice).1.offline = p.offline := by
  cases notice with
  | image url outcome => cases outcome <;> exact p.offline_showPicture _
  | published outcome => cases outcome <;> exact p.offline_setPublish _

theorem offline_applyAll (notices : List Notice) :
    (p.applyAll notices).1.offline = p.offline := by
  induction notices generalizing p with
  | nil => rfl
  | cons notice notices ih =>
    change ((p.apply notice).1.applyAll notices).1.offline = p.offline
    rw [ih, offline_apply]

end Panel

def FeedStatus.ofOutcome : Except BoardError (List Series) → FeedStatus
  | .ok found => .ready found
  | .error e => .failed e.message

namespace Feed

theorem apply_eq (feed : Feed) (url : String) (outcome : Except BoardError (List Series)) :
    (feed.apply url outcome).1 =
      { feed with status := .ofOutcome outcome, pending := feed.pending - 1 } := by
  cases outcome <;> rfl

theorem applyAll_eq (feed : Feed) (answers : List (String × Except BoardError (List Series))) :
    (feed.applyAll answers).1 =
      { feed with
        status := (answers.getLast?.map (.ofOutcome ·.2)).getD feed.status
        pending := feed.pending - answers.length } := by
  induction answers generalizing feed with
  | nil => rfl
  | cons answer answers ih =>
    change ((feed.apply answer.1 answer.2).1.applyAll answers).1 = _
    rw [ih, apply_eq, List.getLast?_cons, List.length_cons]
    have hpending : feed.pending - 1 - answers.length = feed.pending - (answers.length + 1) := by
      omega
    rw [hpending]
    cases answers.getLast? <;> rfl

theorem poll_eq (feed : Feed) : feed.poll.1 =
    { feed with
      status := (feed.inbox.getLast?.map (.ofOutcome ·.2)).getD feed.status
      pending := feed.pending - feed.inbox.length
      inbox := [] } := applyAll_eq _ _

@[simp] theorem url_poll (feed : Feed) : feed.poll.1.url = feed.url := by
  rw [poll_eq]

end Feed

def Remarks (effects : List Effect) : Prop := ∃ lines : List Log.Line, effects = lines.map .tell

theorem remarks_nil : Remarks [] := ⟨[], rfl⟩

theorem Remarks.append {effects more : List Effect} (h : Remarks effects) (hmore : Remarks more) :
    Remarks (effects ++ more) := by
  obtain ⟨lines, rfl⟩ := h
  obtain ⟨later, rfl⟩ := hmore
  exact ⟨lines ++ later, List.map_append.symm⟩

theorem Remarks.jobs {effects : List Effect} (h : Remarks effects) :
    effects.filterMap Effect.job? = [] := by
  obtain ⟨lines, rfl⟩ := h
  simp [Effect.job?]

theorem Remarks.calls {effects : List Effect} (h : Remarks effects) :
    effects.filterMap Effect.call? = [] := by
  obtain ⟨lines, rfl⟩ := h
  simp [Effect.call?]

namespace Feed

theorem remarks_apply (feed : Feed) (url : String) (outcome : Except BoardError (List Series)) :
    Remarks (feed.apply url outcome).2 := by
  cases outcome <;> exact ⟨[_], rfl⟩

theorem remarks_applyAll (feed : Feed)
    (answers : List (String × Except BoardError (List Series))) :
    Remarks (feed.applyAll answers).2 := by
  induction answers generalizing feed with
  | nil => exact remarks_nil
  | cons answer answers ih => exact (remarks_apply feed answer.1 answer.2).append (ih _)

end Feed

namespace Panel
variable (p : Panel)

theorem offline_pollViewer : p.pollViewer.1.offline = p.offline := by
  simp only [pollViewer]
  split
  · rename_i feed hcontent
    simp only [offline, hcontent, Content.offline, Option.map_some, Viewer.offline, Feed.url_poll]
  · rfl

theorem offline_poll : p.poll.1.offline = p.offline := by
  change ((({ p with inbox := [] } : Panel).applyAll p.inbox).1.pollViewer).1.offline = p.offline
  rw [offline_pollViewer, offline_applyAll]
  rfl

theorem remarks_apply (notice : Notice) : Remarks (p.apply notice).2 := by
  cases notice with
  | image url outcome => cases outcome <;> exact ⟨[_], rfl⟩
  | published outcome =>
    cases outcome
    · exact ⟨[_], rfl⟩
    · exact remarks_nil

theorem remarks_applyAll (notices : List Notice) : Remarks (p.applyAll notices).2 := by
  induction notices generalizing p with
  | nil => exact remarks_nil
  | cons notice notices ih => exact (p.remarks_apply notice).append (ih _)

theorem remarks_pollViewer : Remarks p.pollViewer.2 := by
  simp only [pollViewer]
  split
  · exact Feed.remarks_applyAll _ _
  · exact remarks_nil

theorem remarks_poll : Remarks p.poll.2 :=
  (remarks_applyAll _ p.inbox).append (remarks_pollViewer _)

section
variable {p q : Panel} (h : q.offline = p.offline)
include h

theorem id_of_offline : q.id = p.id := by
  have := congrArg Panel.id h
  exact this

theorem setting_of_offline : q.setting = p.setting := by
  have := congrArg Panel.setting h
  exact this

theorem currentUrl_of_offline : q.currentUrl = p.currentUrl := by
  have := congrArg Panel.currentUrl h
  exact this

theorem initialized_of_offline : q.initialized = p.initialized := by
  have := congrArg Panel.initialized h
  exact this

theorem controls_of_offline : q.controls.isSome = p.controls.isSome := by
  have := congrArg (fun r : Panel => r.controls.isSome) h
  simpa [offline] using this

theorem content_of_offline : q.content.offline = p.content.offline := congrArg Panel.content h

end

/-- What neither an operation nor the network changes about a panel. -/
structure Fixed {α : Type} (f : Panel → α) : Prop where
  operate : ∀ (p : Panel) (operation : Operation), f (p.operate operation).1 = f p
  offline : ∀ {p q : Panel}, q.offline = p.offline → f q = f p

theorem fixed_id : Fixed Panel.id := ⟨operate_id, id_of_offline⟩

theorem fixed_sources : Fixed Panel.sources where
  operate p operation := by
    have h := p.operate_outcome operation
    generalize p.operate operation = done at h
    cases h <;> rfl
  offline h := by
    have := congrArg Panel.sources h
    exact this

end Panel

namespace Session

theorem perform_remarks (s : Session) {done : Panel × List Effect} (h : Remarks done.2) :
    s.perform done = { s with panel := done.1 } := by
  simp only [perform, h.jobs, h.calls, tickets, List.append_nil]

theorem poll_eq (s : Session) : s.poll =
    { s with panel := s.panel.poll.1, queued := [], applied := s.applied ++ s.queued } := by
  rw [poll, s.perform_remarks s.panel.remarks_poll]

theorem offline_answer (s : Session) (place : Nat) (server : Server) :
    (s.answer place server).panel.offline = s.panel.offline := by
  have hanswered := s.answered place server
  generalize s.answer place server = t at hanswered
  cases hanswered with
  | nobody | silent | onward => rfl
  | message at_place ended => exact s.panel.offline_receive _

/-- What holds whatever the network did and is kept by every operation holds all through a run. -/
theorem panel_run {I : Panel → Prop} (hoffline : ∀ p q : Panel, q.offline = p.offline → I p → I q)
    (hoperate : ∀ (p : Panel) (operation : Operation), I p → I (p.operate operation).1)
    {s : Session} (hs : I s.panel) (moves : List Move) : I (s.run moves).panel := by
  refine run_keeps (I := fun s => I s.panel) (fun s move h => ?_) hs moves
  cases move with
  | operate operation => exact hoperate s.panel operation h
  | answer place server => exact hoffline _ _ (s.offline_answer place server) h
  | poll => exact hoffline _ _ s.panel.offline_poll h

theorem fixed_run {α : Type} {f : Panel → α} (hf : Panel.Fixed f) (s : Session)
    (moves : List Move) : f (s.run moves).panel = f s.panel :=
  panel_run (I := fun p => f p = f s.panel) (fun _ _ hoffline h => (hf.offline hoffline).trans h)
    (fun p operation h => (hf.operate p operation).trans h) rfl moves

end Session

end GraphBoard
