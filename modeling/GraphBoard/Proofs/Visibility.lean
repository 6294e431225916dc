import GraphBoard.Proofs.Freshness
import GraphBoard.Proofs.Mounting
import GraphBoard.Proofs.Publishing

set_option autoImplicit false

namespace GraphBoard

theorem Controls.select_of_active {controls : Controls} {range : TimeRange}
    (h : controls.active = some range) : controls.select range = controls := by
  rw [select, ← h]

namespace Panel

/-- All that tells whether a panel is open tells the same, and its bar tells the range. -/
structure Coherent (p : Panel) : Prop where
  expanded : p.expanded = p.visible
  handle : ∀ handle ∈ p.handle, handle.isOpen = p.visible
  initialized : p.handle = none → p.initialized = true
  active : ∀ controls ∈ p.controls, controls.active = some p.range
  equipped : p.Equipped
  recorded : p.Recorded

variable {p q : Panel}

theorem Coherent.of_offline (hoffline : q.offline = p.offline) (h : p.Coherent) : q.Coherent := by
  have hvisible : q.visible = p.visible := by
    have := congrArg Panel.visible hoffline
    exact this
  have hexpanded : q.expanded = p.expanded := by
    have := congrArg Panel.expanded hoffline
    exact this
  have hhandle : q.handle = p.handle := by
    have := congrArg Panel.handle hoffline
    exact this
  have hrange : q.range = p.range := by
    have := congrArg Panel.range hoffline
    exact this
  have hactive : q.controls.map Controls.active = p.controls.map Controls.active := by
    have := congrArg (fun r : Panel => r.controls.map Controls.active) hoffline
    simp only [offline, Option.map_map] at this
    exact this
  have hrecorded : q.Recorded := by
    rw [← recorded_offline, hoffline]
    exact p.recorded_offline.2 h.recorded
  refine ⟨?_, ?_, ?_, fun controls hcontrols => ?_, h.equipped.of_offline hoffline, hrecorded⟩
  · rw [hexpanded, hvisible, h.expanded]
  · rw [hhandle, hvisible]
    exact h.handle
  · rw [hhandle, initialized_of_offline hoffline]
    exact h.initialized
  · rw [Option.mem_def.1 hcontrols, Option.map_some] at hactive
    obtain ⟨other, hother, hsame⟩ := Option.map_eq_some_iff.1 hactive.symm
    rw [← hsame, hrange, h.active other hother]

theorem Coherent.lastRange (h : p.Coherent) (hcontrols : p.controls.isSome) :
    p.lastRange = some p.range := by
  obtain ⟨-, -, hnone⟩ | ⟨index, index_lt, -, hrange, -⟩ := h.recorded.load
  · have hsome := h.equipped.currentUrl hcontrols
    rw [hnone] at hsome
    contradiction
  · exact hrange

theorem active_load (p : Panel) :
    ∀ controls ∈ p.load.1.controls, controls.active = some p.range := by
  intro controls hcontrols
  change p.controls.map (·.select p.range) = some controls at hcontrols
  obtain ⟨bar, -, rfl⟩ := Option.map_eq_some_iff.1 hcontrols
  rfl

theorem opened_handle (p : Panel) : ∀ handle ∈ p.opened.handle, handle.isOpen = true := by
  intro handle hhandle
  change p.handle.map ({ · with isOpen := true }) = some handle at hhandle
  obtain ⟨before, -, rfl⟩ := Option.map_eq_some_iff.1 hhandle
  rfl

theorem closed_handle (p : Panel) : ∀ handle ∈ p.close.handle, handle.isOpen = false := by
  intro handle hhandle
  change p.handle.map ({ · with isOpen := false }) = some handle at hhandle
  obtain ⟨before, -, rfl⟩ := Option.map_eq_some_iff.1 hhandle
  rfl

theorem coherent_opened (hinitialized : p.handle = none → p.initialized = true)
    (hactive : ∀ controls ∈ p.controls, controls.active = some p.range)
    (hequipped : p.opened.Equipped) (hrecorded : p.opened.Recorded) : p.opened.Coherent where
  expanded := rfl
  handle := p.opened_handle
  initialized hnone := hinitialized (Option.map_eq_none_iff.1 hnone)
  active := hactive
  equipped := hequipped
  recorded := hrecorded

theorem Coherent.close (h : p.Coherent) : p.close.Coherent where
  expanded := rfl
  handle := p.closed_handle
  initialized hnone := h.initialized (Option.map_eq_none_iff.1 hnone)
  active := h.active
  equipped := h.equipped.operate .close
  recorded := h.recorded.operate .close

theorem Coherent.operate (h : p.Coherent) (operation : Operation) :
    (p.operate operation).1.Coherent := by
  have hequipped := h.equipped.operate operation
  have hrecorded := h.recorded.operate operation
  have houtcome := p.operate_outcome operation
  generalize p.operate operation = done at houtcome hequipped hrecorded
  cases houtcome with
  | remark lines => exact h
  | probe url controls displayed => exact h
  | close => exact h.close
  | choose index index_lt =>
    exact ⟨h.expanded, h.handle, h.initialized, h.active, hequipped, hrecorded⟩
  | reveal initialized fresh =>
    exact coherent_opened h.initialized h.active hequipped hrecorded
  | reload initialized stale =>
    exact coherent_opened h.initialized p.active_load hequipped hrecorded
  | setUp initialized =>
    exact coherent_opened (fun _ => rfl) (active_load { p with controls := some .new }) hequipped
      hrecorded
  | range range =>
    exact ⟨h.expanded, h.handle, h.initialized, active_load { p with range }, hequipped, hrecorded⟩

theorem fixed_handle : Fixed fun p => p.handle.map Handle.id where
  operate p operation := by
    have houtcome := p.operate_outcome operation
    generalize p.operate operation = done at houtcome
    have hkept : ∀ isOpen, (p.handle.map ({ · with isOpen } : Handle → Handle)).map Handle.id =
        p.handle.map Handle.id := by
      intro isOpen
      rw [Option.map_map]
      rfl
    cases houtcome with
    | remark lines | probe url controls displayed => rfl
    | choose index index_lt | range range => rfl
    | close => exact hkept false
    | reveal initialized fresh | reload initialized stale | setUp initialized => exact hkept true
  offline h := by
    have := congrArg (fun p : Panel => p.handle.map Handle.id) h
    exact this

theorem click_of_no_handle (h : p.handle = none) : p.click = (p, []) := by
  simp only [click, h, Option.isNone_none, if_true]

theorem click_of_visible (h : p.handle.isSome) (hvisible : p.visible = true) :
    p.click = (p.close, []) := by
  obtain ⟨handle, hhandle⟩ := Option.isSome_iff_exists.1 h
  simp [click, hhandle, hvisible]

theorem visible_click (h : p.handle.isSome) : p.click.1.visible = !p.visible := by
  cases hvisible : p.visible with
  | true => rw [click_of_visible h hvisible]; rfl
  | false =>
    obtain ⟨handle, hhandle⟩ := Option.isSome_iff_exists.1 h
    have hopen : p.click = p.openUp := by simp [click, hhandle, hvisible]
    rw [hopen]
    rfl

/-- A panel that is seen and has no handle is hidden by nothing but a call to close it. -/
theorem visible_operate (hhandle : p.handle = none) (hvisible : p.visible = true)
    {operation : Operation} (h : operation ≠ .close) :
    (p.operate operation).1.visible = true := by
  have hchoose : ∀ index, (p.selectSource index).1.visible = true := by
    intro index
    unfold selectSource
    split <;> exact hvisible
  have hclick : p.click.1.visible = true := by
    rw [click_of_no_handle hhandle]
    exact hvisible
  cases operation with
  | openUp => rfl
  | close => contradiction
  | click => exact hclick
  | selectRange range => exact hvisible
  | selectSource index => exact hchoose index
  | publish => exact hvisible
  | event event =>
    cases event with
    | toggleSelected => exact hclick
    | selectRange range =>
      simp only [operate, act]
      split <;> exact hvisible
    | selectSource index => exact hchoose index
    | publishSelected | selectNext | selectPrevious | quit => exact hvisible

end Panel

def Operation.isClick : Operation → Bool
  | click => true
  | event .toggleSelected => true
  | _ => false

theorem Panel.operate_click (p : Panel) {operation : Operation} (h : operation.isClick = true) :
    p.operate operation = p.click := by
  cases operation with
  | click => rfl
  | event event => cases event <;> first | rfl | contradiction
  | openUp | close | selectRange _ | selectSource _ | publish => contradiction

theorem Graph.container_visible (graph : Graph) :
    graph.container.visible = graph.handle.isNone := by
  cases hhandle : graph.handle <;> simp [container, hhandle, Container.new, Container.hidden]

theorem Graph.coherent_panel {graph : Graph} {setting : Setting} {made : Panel × List Effect}
    (h : graph.panel setting = .ok made) :
    made.1.Coherent ∧ made.1.visible = made.1.handle.isNone := by
  obtain ⟨p, own⟩ := made
  obtain ⟨effects, line, hnew, -⟩ := Graph.panel_ok h
  have hrecorded : p.Recorded := Session.recorded_start hnew
  let b := Panel.bare graph.container graph.sources graph.handle setting
  have hvisible : b.visible = b.handle.isNone :=
    graph.container_visible.trans Option.isNone_map.symm
  obtain ⟨created, ⟨hnone, hmade⟩ | ⟨hsome, hmade⟩⟩ := Panel.new_ok hnew
  · obtain ⟨rfl, -⟩ := Prod.mk.inj hmade
    have hhandle : b.handle = none := by simp [b, Panel.bare, hnone]
    have hactive := Panel.active_load { b with controls := some .new }
    refine ⟨⟨rfl, fun handle hmem => ?_, fun _ => rfl, hactive, b.equipped_setUp, hrecorded⟩,
      hvisible⟩
    change b.handle = some handle at hmem
    rw [hhandle] at hmem
    contradiction
  · obtain ⟨rfl, -⟩ := Prod.mk.inj hmade
    have hhandle : b.handle.isSome := by simpa [b, Panel.bare] using hsome
    have hbare : b.controls = none := rfl
    refine ⟨⟨rfl, fun handle hmem => ?_, fun hnone => ?_, ?_, ⟨rfl, ?_⟩, hrecorded⟩, hvisible⟩
    · have hclosed : handle.isOpen = false := by
        obtain ⟨id, -, rfl⟩ := Option.map_eq_some_iff.1 hmem
        rfl
      rw [hclosed]
      change false = b.visible
      rw [hvisible, Option.isNone_eq_false_iff.2 hhandle]
    · rw [show b.handle = none from hnone] at hhandle
      contradiction
    · intro controls hcontrols
      rw [hbare] at hcontrols
      contradiction
    · intro hcontrols
      rw [hbare] at hcontrols
      contradiction

namespace Session

theorem visible_run {s : Session} (hhandle : s.panel.handle = none)
    (hvisible : s.panel.visible = true) {moves : List Move} (hmoves : .operate .close ∉ moves) :
    (s.run moves).panel.visible = true := by
  induction moves generalizing s with
  | nil => exact hvisible
  | cons move moves ih =>
    obtain ⟨hmove, hrest⟩ := List.ne_and_not_mem_of_not_mem_cons hmoves
    have hoffline : (s.step move).panel.offline = s.panel.offline →
        (s.step move).panel.handle = none ∧ (s.step move).panel.visible = true := by
      intro hoffline
      have hkept := congrArg (fun p : Panel => (p.handle, p.visible)) hoffline
      obtain ⟨hh, hv⟩ := Prod.mk.inj hkept
      exact ⟨Eq.trans hh hhandle, Eq.trans hv hvisible⟩
    have hstep : (s.step move).panel.handle = none ∧ (s.step move).panel.visible = true := by
      cases move with
      | operate operation =>
        have hid := Panel.fixed_handle.operate s.panel operation
        rw [hhandle, Option.map_none, Option.map_eq_none_iff] at hid
        refine ⟨hid, Panel.visible_operate hhandle hvisible ?_⟩
        rintro rfl
        exact hmove rfl
      | answer place server => exact hoffline (s.offline_answer place server)
      | poll => exact hoffline s.panel.offline_poll
    exact ih hstep.1 hstep.2 hrest

end Session

/-- What can be seen of a mounted panel hangs together at any time in any run. -/
theorem coherent_run {paint : Screen.Painter} {config : Config} {kind : ViewerKind}
    {board : Board} {effects : List PanelEffect}
    (hmount : Board.mount paint config kind = (.ok board, effects)) {i : Nat}
    {p : Panel} (hp : board.panels[i]? = some p) (moves : List Move) :
    let s := (Session.start (p, effectsOf i effects)).run moves
    let q := s.panel
    -- Open or not, the panel, its container and its handle tell the same.
    q.expanded = q.visible ∧
      (∀ handle ∈ q.handle, handle.isOpen = q.visible) ∧
      q.handle.map Handle.id = p.handle.map Handle.id ∧
      -- Without a handle the panel is set up and no click does anything.
      (q.handle = none → q.initialized = true ∧ (.operate .close ∉ moves → q.visible = true) ∧
        q.hearsClick = false ∧
        ∀ operation : Operation, operation.isClick = true → s.step (.operate operation) = s) ∧
      -- The bar is there once the panel is set up, with the button of the range lit and no other.
      q.controls.isSome = q.initialized ∧
      (∀ controls ∈ q.controls, controls.buttons.map (·.1) = TimeRange.all ∧
        (controls.buttons.filter (·.2)).map (·.1) = [q.range] ∧ q.lastRange = some q.range) ∧
      -- A click on the handle opens or closes, and closing changes nothing else.
      (q.handle.isSome → q.hearsClick = true ∧
        ∀ operation : Operation, operation.isClick = true →
          (s.step (.operate operation)).panel.visible = !q.visible ∧
          (q.visible = true → s.step (.operate operation) = s.step (.operate .close))) ∧
      s.step (.operate .close) = { s with panel := q.close } ∧
      { q.close with visible := q.visible, expanded := q.expanded, handle := q.handle } = q ∧
      q.close.handle.map Handle.id = q.handle.map Handle.id := by
  intro s q
  obtain ⟨graph, -, hpanel⟩ := Board.mount_panel hmount hp
  obtain ⟨hcoherent, hvisible⟩ := Graph.coherent_panel hpanel
  have h : q.Coherent := Session.panel_run (I := Panel.Coherent)
    (fun _ _ hoffline h => h.of_offline hoffline) (fun _ operation h => h.operate operation)
    (s := Session.start (p, effectsOf i effects)) hcoherent moves
  have hhandle : q.handle.map Handle.id = p.handle.map Handle.id :=
    Session.fixed_run Panel.fixed_handle (Session.start (p, effectsOf i effects)) moves
  refine ⟨h.expanded, h.handle, hhandle, fun hnone => ?_, h.equipped.initialized.symm,
    fun controls hcontrols => ?_, fun hsome => ?_, s.perform_remarks remarks_nil, rfl,
    Panel.fixed_handle.operate q .close⟩
  · have hbare : p.handle = none := by
      rw [hnone, Option.map_none] at hhandle
      exact Option.map_eq_none_iff.1 hhandle.symm
    refine ⟨h.initialized hnone, fun hclose => ?_, ?_, fun operation hclick => ?_⟩
    · refine Session.visible_run (s := Session.start (p, effectsOf i effects)) hbare ?_ hclose
      exact hvisible.trans (Option.isNone_iff_eq_none.2 hbare)
    · exact Option.isSome_eq_false_iff.2 (Option.isNone_iff_eq_none.2 hnone)
    · rw [Session.step, q.operate_click hclick, Panel.click_of_no_handle hnone]
      exact s.perform_remarks remarks_nil
  · have hlit := Controls.buttons_select controls q.range
    rw [Controls.select_of_active (h.active controls hcontrols)] at hlit
    refine ⟨?_, hlit, h.lastRange (Option.isSome_of_mem hcontrols)⟩
    rw [Controls.buttons, List.map_map]
    rfl
  · refine ⟨hsome, fun operation hclick => ⟨?_, fun hopen => ?_⟩⟩
    · change (q.operate operation).1.visible = _
      rw [q.operate_click hclick, Panel.visible_click hsome]
    · rw [Session.step, q.operate_click hclick, Panel.click_of_visible hsome hopen]
      rfl

/-- Closed while its picture loads, opened by a click, and another range chosen: still one button is
lit. Without a handle the clicks go unheard. -/
theorem coherent_clicked :
    let graphs : List Graph := [⟨"load", none, "l", none, .image⟩,
      ⟨"octets", none, "a;b;c", some "more", .series⟩]
    let config : Config := ⟨none, "/", .standard, graphs⟩
    let moves : List Move := [.operate (.selectRange .month), .operate .openUp, .operate .openUp,
      .operate .click, .poll, .operate (.event .toggleSelected), .operate (.selectRange .week)]
    ∃ board effects bare handled,
      Board.mount Screen.paintBlack config .chart = (.ok board, effects) ∧
      board.panels[0]? = some bare ∧ board.panels[1]? = some handled ∧
      ((Session.start (bare, effectsOf 0 effects)).run moves).panel.visible = true ∧
      let q := ((Session.start (handled, effectsOf 1 effects)).run moves).panel
      q.handle.map Handle.isOpen = some true ∧ q.visible = true ∧
        q.controls.map (fun controls => (controls.buttons.filter (·.2)).map (·.1)) =
          some [.week] := by
  intro graphs config moves
  obtain ⟨board, effects, bare, handled, hmount, hbare, hhandled, hnone, hopen, hrange, hset⟩ :
      ∃ board effects bare handled,
        Board.mount Screen.paintBlack config .chart = (.ok board, effects) ∧
        board.panels[0]? = some bare ∧ board.panels[1]? = some handled ∧ bare.handle = none ∧
        let q := ((Session.start (handled, effectsOf 1 effects)).run moves).panel
        q.handle.map Handle.isOpen = some true ∧ q.range = .week ∧ q.initialized = true :=
    ⟨_, _, _, _, rfl, rfl, rfl, rfl, by decide +kernel, by decide +kernel, by decide +kernel⟩
  have hclose : Move.operate .close ∉ moves := by simp [moves]
  refine ⟨board, effects, bare, handled, hmount, hbare, hhandled, ?_, hopen, ?_, ?_⟩
  · obtain ⟨-, -, hhandle, hunheard, -⟩ := coherent_run hmount hbare moves
    rw [hnone, Option.map_none, Option.map_eq_none_iff] at hhandle
    exact (hunheard hhandle).2.1 hclose
  · obtain ⟨-, hhandle, -⟩ := coherent_run hmount hhandled moves
    obtain ⟨handle, hmem, hisOpen⟩ := Option.map_eq_some_iff.1 hopen
    exact (hhandle handle hmem).symm.trans hisOpen
  · obtain ⟨-, -, -, -, hbar, hlit, -⟩ := coherent_run hmount hhandled moves
    obtain ⟨controls, hcontrols⟩ := Option.isSome_iff_exists.1 (hbar.trans hset)
    obtain ⟨-, hbuttons, -⟩ := hlit controls hcontrols
    rw [hcontrols, Option.map_some, hbuttons, hrange]

end GraphBoard
