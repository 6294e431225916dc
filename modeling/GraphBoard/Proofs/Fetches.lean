import GraphBoard.Proofs.Jobs
import GraphBoard.Proofs.Offline

set_option autoImplicit false

namespace GraphBoard

open GraphBoard.Http

def Call.isFetch : Call → Bool
  | get _ => true
  | attach _ _ => true
  | refresh _ => true
  | head _ => false
  | post _ _ => false

theorem Job.isFetch_next {server : Server} {job next : Job}
    (h : job.advance server = .next next) : next.call.isFetch = false := by
  obtain ⟨publication, name, -, rfl⟩ := Job.eq_of_next h
  rfl

def fetches (effects : List Effect) : List Call :=
  (effects.filterMap Effect.call?).filter Call.isFetch

@[simp] theorem fetches_append (effects more : List Effect) :
    fetches (effects ++ more) = fetches effects ++ fetches more := by
  simp [fetches]

theorem fetches_remark (lines : List Log.Line) : fetches (lines.map .tell) = [] := by
  rw [fetches, Remarks.calls ⟨lines, rfl⟩, List.filter_nil]

def Content.fetch (container url : String) (kind : ViewerKind) : Content → Call
  | picture _ _ => .get url
  | plot (some (.chart _)) => .get (Job.seriesUrl url)
  | plot (some (.outside _)) => .refresh url
  | plot none =>
    match kind with
    | .chart => .get (Job.seriesUrl url)
    | .outside => .attach container url

theorem fetches_request (container url : String) (kind : ViewerKind) (content : Content) :
    fetches (content.request container url kind).2 = [content.fetch container url kind] := by
  cases content with
  | picture shown pending => rfl
  | plot viewer =>
    cases viewer with
    | none => cases kind <;> rfl
    | some viewer => cases viewer <;> rfl

namespace Panel

/-- Whether opening the panel has to ask for its graph. -/
def isDue (p : Panel) : Bool := !p.initialized || p.shouldReload

def opensOnClick (p : Panel) : Bool := p.handle.isSome && !p.visible

def asks (p : Panel) : Operation → Bool
  | .openUp => p.isDue
  | .close => false
  | .click => p.opensOnClick && p.isDue
  | .selectRange _ => true
  | .selectSource _ => false
  | .publish => false
  | .event .toggleSelected => p.opensOnClick && p.isDue
  | .event (.selectRange _) => p.controls.isSome
  | .event _ => false

/-- The graph that is chosen now has been asked for, once. -/
structure Asked (p : Panel) (done : Panel × List Effect) : Prop where
  fetches : fetches done.2 = [p.content.fetch p.id done.1.url p.setting.viewer]
  content : done.1.content = (p.content.request p.id done.1.url p.setting.viewer).1
  fresh : done.1.shouldReload = false
  currentUrl : done.1.currentUrl = some done.1.url

structure Quiet (p : Panel) (done : Panel × List Effect) : Prop where
  fetches : fetches done.2 = []
  content : done.1.content = p.content
  currentUrl : done.1.currentUrl = p.currentUrl

def Follows (p : Panel) (asks : Bool) (done : Panel × List Effect) : Prop :=
  if asks then p.Asked done else p.Quiet done

variable (p : Panel)

theorem asked_load : p.Asked p.load where
  fetches := by
    rw [load_effects]
    exact fetches_request p.id p.url p.setting.viewer p.content
  content := rfl
  fresh := p.load_shouldReload
  currentUrl := rfl

theorem asked_setUp : p.Asked p.setUp := by
  have h := asked_load { p with controls := some .new }
  rw [setUp_eq]
  exact ⟨by rw [fetches_append, h.fetches]; rfl, h.content, h.fresh, h.currentUrl⟩

theorem asked_range (range : TimeRange) : p.Asked ({ p with range } : Panel).load :=
  have h := asked_load { p with range }
  ⟨h.fetches, h.content, h.fresh, h.currentUrl⟩

theorem Asked.opened {p : Panel} {done : Panel × List Effect} (h : p.Asked done) :
    p.Asked (done.1.opened, done.2) := ⟨h.fetches, h.content, h.fresh, h.currentUrl⟩

theorem Asked.viewer {p : Panel} {done : Panel × List Effect} (h : p.Asked done)
    (hplot : p.hasPlot = true) :
    done.1.viewer? = some (Viewer.after p.viewer? p.id done.1.url p.setting.viewer) := by
  have hcontent := h.content
  cases hp : p.content with
  | picture shown pending => simp [hasPlot, hp] at hplot
  | plot viewer =>
    rw [hp, Content.request_plot] at hcontent
    simp only [viewer?, hcontent, hp]

theorem Quiet.viewer {p : Panel} {done : Panel × List Effect} (h : p.Quiet done) :
    done.1.viewer? = p.viewer? := by
  simp only [viewer?, h.content]

theorem quiet_remark (lines : List Log.Line) : p.Quiet (p, lines.map .tell) :=
  ⟨fetches_remark lines, rfl, rfl⟩

theorem quiet_nothing : p.Quiet (p, []) := p.quiet_remark []

theorem openUp_follows : p.Follows p.isDue p.openUp := by
  cases hinit : p.initialized with
  | false =>
    rw [p.openUp_setUp hinit]
    simpa [Follows, isDue, hinit] using p.asked_setUp.opened
  | true =>
    cases hstale : p.shouldReload with
    | false =>
      rw [p.openUp_fresh hinit hstale]
      simpa [Follows, isDue, hinit, hstale] using (⟨rfl, rfl, rfl⟩ : p.Quiet (p.opened, []))
    | true =>
      rw [p.openUp_reload hinit hstale]
      simpa [Follows, isDue, hinit, hstale] using p.asked_load.opened

theorem click_follows : p.Follows (p.opensOnClick && p.isDue) p.click := by
  cases hhandle : p.handle with
  | none => simpa [Follows, opensOnClick, click, hhandle] using p.quiet_nothing
  | some handle =>
    cases hvisible : p.visible with
    | true =>
      simpa [Follows, opensOnClick, click, hhandle, hvisible] using
        (⟨rfl, rfl, rfl⟩ : p.Quiet (p.close, []))
    | false => simpa [opensOnClick, click, hhandle, hvisible] using p.openUp_follows

theorem selectSource_follows (index : Nat) : p.Follows false (p.selectSource index) := by
  by_cases h : index < p.sources.length
  · rw [p.selectSource_of_lt h]
    exact ⟨rfl, rfl, rfl⟩
  · rw [p.selectSource_of_not_lt h]
    exact p.quiet_remark [_]

theorem publish_follows : p.Follows false (p, p.publish) := by
  unfold publish
  split_ifs
  · exact p.quiet_remark [_]
  · cases p.displayedUrl with
    | none => exact p.quiet_remark [_]
    | some url => exact ⟨rfl, rfl, rfl⟩

theorem selectRange_follows (range : TimeRange) : p.Follows true (p.selectRange range) :=
  p.asked_range range

theorem operate_follows (operation : Operation) :
    p.Follows (p.asks operation) (p.operate operation) := by
  cases operation with
  | openUp => exact p.openUp_follows
  | close => exact ⟨rfl, rfl, rfl⟩
  | click => exact p.click_follows
  | selectRange range => exact p.selectRange_follows range
  | selectSource index => exact p.selectSource_follows index
  | publish => exact p.publish_follows
  | event event =>
    cases event with
    | toggleSelected => exact p.click_follows
    | selectRange range =>
      cases hcontrols : p.controls with
      | none => simpa [Follows, asks, operate, act, hcontrols] using p.quiet_nothing
      | some controls =>
        simpa [asks, operate, act, hcontrols] using p.selectRange_follows range
    | selectSource index => exact p.selectSource_follows index
    | publishSelected => exact p.publish_follows
    | selectNext | selectPrevious | quit => exact p.quiet_nothing

end Panel

end GraphBoard
