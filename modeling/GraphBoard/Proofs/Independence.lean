import GraphBoard.Proofs.Jobs
import GraphBoard.Proofs.Offline

set_option autoImplicit false

namespace GraphBoard

open GraphBoard.Http

def Call.isDirect : Call → Bool
  | get _ => true
  | head _ => true
  | attach _ _ => true
  | refresh _ => true
  | post _ _ => false

theorem Job.isDirect_next {server : Server} {job next : Job}
    (h : job.advance server = .next next) : next.call.isDirect = false := by
  obtain ⟨publication, name, -, rfl⟩ := Job.eq_of_next h
  rfl

namespace Content
variable (container url : String) (kind : ViewerKind) (content : Content)

theorem offline_request : (content.offline.request container url kind).1.offline =
    (content.request container url kind).1.offline := by
  cases content with
  | picture shown pending => rfl
  | plot viewer =>
    cases viewer with
    | none => rfl
    | some viewer => cases viewer <;> rfl

theorem effects_request : (content.offline.request container url kind).2 =
    (content.request container url kind).2 := by
  cases content with
  | picture shown pending => rfl
  | plot viewer =>
    cases viewer with
    | none => rfl
    | some viewer => cases viewer <;> rfl

end Content

namespace Panel

structure Same (done other : Panel × List Effect) : Prop where
  offline : other.1.offline = done.1.offline
  effects : other.2 = done.2

theorem Same.opened {done other : Panel × List Effect} (h : Same done other) :
    Same (done.1.opened, done.2) (other.1.opened, other.2) :=
  ⟨congrArg Panel.opened h.offline, h.effects⟩

variable (p : Panel)

theorem same_load : Same p.load p.offline.load where
  offline := by
    -- A range that is chosen stays chosen when the button that publishes is forgotten.
    have hcontrols :
        ((p.controls.map Controls.offline).map (·.select p.range)).map Controls.offline =
          (p.controls.map (·.select p.range)).map Controls.offline := by
      cases p.controls <;> rfl
    have hcontent := Content.offline_request p.id p.url p.setting.viewer p.content
    change ({ p.offline with
      lastIndex := some p.active
      lastRange := some p.range
      currentUrl := some p.url
      controls := ((p.controls.map Controls.offline).map (·.select p.range)).map Controls.offline
      content := (p.content.offline.request p.id p.url p.setting.viewer).1.offline } : Panel) = _
    rw [hcontrols, hcontent]
    rfl
  effects := by
    have heffects := Content.effects_request p.id p.url p.setting.viewer p.content
    rw [load_effects, load_effects]
    exact congrArg _ heffects

theorem same_setUp : Same p.setUp p.offline.setUp := by
  have h := same_load { p with controls := some .new }
  rw [setUp_eq, setUp_eq]
  refine ⟨?_, ?_⟩
  · exact congrArg (fun q : Panel => { q with initialized := true }) h.offline
  · exact congrArg (· ++ [Effect.info (p.logName ++ " initialized")]) h.effects

/-- Where the network is not asked, it does not matter when what came in is forgotten. -/
theorem same_of_offline {q r : Panel} (h : r = q.offline) (effects : List Effect) :
    Same (q, effects) (r, effects) := ⟨by rw [h, offline_offline], rfl⟩

theorem same_openUp : Same p.openUp p.offline.openUp := by
  cases hinit : p.initialized with
  | false =>
    rw [p.openUp_setUp hinit, p.offline.openUp_setUp hinit]
    exact p.same_setUp.opened
  | true =>
    cases hstale : p.shouldReload with
    | false =>
      rw [p.openUp_fresh hinit hstale, p.offline.openUp_fresh hinit hstale]
      exact same_of_offline rfl []
    | true =>
      rw [p.openUp_reload hinit hstale, p.offline.openUp_reload hinit hstale]
      exact p.same_load.opened

theorem same_click : Same p.click p.offline.click := by
  change Same (if p.handle.isNone then (p, []) else if p.visible then (p.close, []) else p.openUp)
    (if p.handle.isNone then (p.offline, []) else
      if p.visible then (p.offline.close, []) else p.offline.openUp)
  split_ifs
  · exact same_of_offline rfl []
  · exact same_of_offline rfl []
  · exact p.same_openUp

theorem same_selectSource (index : Nat) :
    Same (p.selectSource index) (p.offline.selectSource index) := by
  by_cases h : index < p.sources.length
  · rw [p.selectSource_of_lt h, p.offline.selectSource_of_lt h]
    exact same_of_offline rfl []
  · rw [p.selectSource_of_not_lt h, p.offline.selectSource_of_not_lt h]
    exact same_of_offline rfl _

theorem publish_offline : p.offline.publish = p.publish := by
  have hcontrols : p.offline.controls.isNone = p.controls.isNone := Option.isNone_map
  rw [publish, publish, displayedUrl_offline, hcontrols]
  rfl

theorem same_selectRange (range : TimeRange) :
    Same (p.selectRange range) (p.offline.selectRange range) := same_load { p with range }

theorem same_publish : Same (p, p.publish) (p.offline, p.offline.publish) := by
  rw [publish_offline]
  exact same_of_offline rfl _

theorem same_act (event : Event) : Same (p.act event) (p.offline.act event) := by
  cases event with
  | toggleSelected => exact p.same_click
  | selectRange range =>
    have hcontrols : p.offline.controls.isSome = p.controls.isSome := Option.isSome_map
    simp only [act, hcontrols]
    split_ifs
    · exact p.same_selectRange range
    · exact same_of_offline rfl []
  | selectSource index => exact p.same_selectSource index
  | publishSelected => exact p.same_publish
  | selectNext | selectPrevious | quit => exact same_of_offline rfl []

theorem same_operate (operation : Operation) :
    Same (p.operate operation) (p.offline.operate operation) := by
  cases operation with
  | openUp => exact p.same_openUp
  | close => exact same_of_offline rfl []
  | click => exact p.same_click
  | selectRange range => exact p.same_selectRange range
  | selectSource index => exact p.same_selectSource index
  | publish => exact p.same_publish
  | event event => exact p.same_act event

variable {p}

theorem operate_congr {q : Panel} (h : q.offline = p.offline) (operation : Operation) :
    Same (p.operate operation) (q.operate operation) := by
  have hp := p.same_operate operation
  have hq := q.same_operate operation
  rw [h] at hq
  exact ⟨hq.offline.symm.trans hp.offline, hq.effects.symm.trans hp.effects⟩

structure View where
  visible : Bool
  expanded : Bool
  handle : Option Handle
  initialized : Bool
  active : Nat
  range : TimeRange
  lastIndex : Option Nat
  lastRange : Option TimeRange
  currentUrl : Option String
  displayedUrl : Option String
  buttons : Option (List (TimeRange × Bool))
  deriving DecidableEq, Repr

def view (p : Panel) : View where
  visible := p.visible
  expanded := p.expanded
  handle := p.handle
  initialized := p.initialized
  active := p.active
  range := p.range
  lastIndex := p.lastIndex
  lastRange := p.lastRange
  currentUrl := p.currentUrl
  displayedUrl := p.displayedUrl
  buttons := p.controls.map Controls.buttons

theorem view_offline (p : Panel) : p.offline.view = p.view := by
  have hbuttons : (p.controls.map Controls.offline).map Controls.buttons =
      p.controls.map Controls.buttons := by
    cases p.controls <;> rfl
  simp only [view, displayedUrl_offline]
  simp only [offline, hbuttons]

end Panel

def Move.operation? : Move → Option Operation
  | operate operation => some operation
  | answer _ _ => none
  | poll => none

namespace Session

def views (s : Session) : List Move → List Panel.View
  | [] => []
  | move :: moves =>
    (move.operation?.map fun _ => (s.step move).panel.view).toList ++ (s.step move).views moves

/-- Two sessions that the network alone has made different. -/
structure Alike (s t : Session) : Prop where
  panel : t.panel.offline = s.panel.offline
  calls : t.calls.filter Call.isDirect = s.calls.filter Call.isDirect

variable {s t : Session}

theorem Alike.operate (h : s.Alike t) (operation : Operation) :
    (s.step (.operate operation)).Alike (t.step (.operate operation)) := by
  have hsame := Panel.operate_congr h.panel operation
  refine ⟨hsame.offline, ?_⟩
  simp only [step, perform, List.filter_append, h.calls, hsame.effects]

theorem Alike.answer (h : s.Alike t) (place : Nat) (server : Server) :
    (s.answer place server).Alike t := by
  refine ⟨h.panel.trans (s.offline_answer place server).symm, h.calls.trans ?_⟩
  have hanswered := s.answered place server
  generalize s.answer place server = u at hanswered
  cases hanswered with
  | nobody | silent | message => rfl
  | onward at_place next => simp [List.filter_append, Job.isDirect_next next]

theorem Alike.poll (h : s.Alike t) : s.poll.Alike t := by
  rw [poll_eq]
  exact ⟨h.panel.trans s.panel.offline_poll.symm, h.calls⟩

theorem Alike.view (h : s.Alike t) : s.panel.view = t.panel.view := by
  rw [← s.panel.view_offline, ← h.panel, t.panel.view_offline]

theorem Alike.run (h : s.Alike t) (moves : List Move) :
    (s.run moves).Alike (t.run ((moves.filterMap Move.operation?).map .operate)) ∧
      s.views moves = t.views ((moves.filterMap Move.operation?).map .operate) := by
  induction moves generalizing s t with
  | nil => exact ⟨h, rfl⟩
  | cons move moves ih =>
    cases move with
    | operate operation =>
      have hnext := h.operate operation
      obtain ⟨hrun, hviews⟩ := ih hnext
      refine ⟨hrun, ?_⟩
      simp only [views, Move.operation?, List.filterMap_cons, List.map_cons, Option.map_some,
        Option.toList_some, hviews, hnext.view]
    | answer place server => exact ih (h.answer place server)
    | poll => exact ih h.poll

end Session

/-- Whatever is answered, in whatever order, and whenever the panels are polled: two panels made
alike and given the same operations make the same calls but for the registrations, and look the same
after each operation and at the end. -/
theorem run_independent {c : Container} {sources : String} {handle : Option String}
    {setting : Setting} {made remade : Panel × List Effect}
    (hnew : Panel.new c sources handle setting = .ok made)
    (hagain : Panel.new c sources handle setting = .ok remade) {moves others : List Move}
    (hsame : moves.filterMap Move.operation? = others.filterMap Move.operation?) :
    let s := Session.start made
    let t := Session.start remade
    (s.run moves).calls.filter Call.isDirect = (t.run others).calls.filter Call.isDirect ∧
      s.views moves = t.views others ∧ (s.run moves).panel.view = (t.run others).panel.view := by
  intro s t
  have hmade : made = remade := by
    rw [hnew] at hagain
    injection hagain
  have hst : s.Alike t := by
    subst hmade
    exact ⟨rfl, rfl⟩
  have hself : t.Alike t := ⟨rfl, rfl⟩
  obtain ⟨hrun, hviews⟩ := hst.run moves
  obtain ⟨hother, hothers⟩ := hself.run others
  rw [hsame] at hrun hviews
  exact ⟨hrun.calls.symm.trans hother.calls, hviews.trans hothers.symm,
    hrun.view.trans hother.view.symm⟩

/-- A picture that fails, comes late or never comes makes no call and keeps none from being made. -/
theorem run_independent_failing :
    let c := Container.new "octets" "Octets" false
    let setting : Setting := ⟨.standard, "/", .chart⟩
    let made := Panel.make c "a;b" none setting
    let server : Server := ⟨fun _ => .error .image, fun _ => .error .image, fun _ _ => .ok ()⟩
    let moves : List Move := [.answer 0 server, .poll, .operate (.selectRange .week),
      .operate (.selectSource 1), .answer 0 server, .operate .publish, .operate .openUp, .poll]
    let others : List Move := [.operate (.selectRange .week), .operate (.selectSource 1),
      .operate .publish, .operate .openUp]
    Panel.new c "a;b" none setting = .ok made ∧
      moves.filterMap Move.operation? = others.filterMap Move.operation? ∧
      ((Session.start made).run moves).calls.filter Call.isDirect =
        [.get "a?timeframe=day", .get "a?timeframe=week", .head "a?timeframe=week",
          .get "b?timeframe=week"] := by
  intro c setting made server moves others
  have hnew : Panel.new c "a;b" none setting = .ok made := rfl
  have hsame : moves.filterMap Move.operation? = others.filterMap Move.operation? := rfl
  refine ⟨hnew, hsame, ?_⟩
  rw [(run_independent hnew hnew hsame).1]
  decide

end GraphBoard
