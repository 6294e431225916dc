import GraphBoard.Proofs.FetchTrace
import GraphBoard.Proofs.Mounting
import GraphBoard.Proofs.Publishing

set_option autoImplicit false

namespace GraphBoard

/-- Whether a move leaves a panel unopened: any event but a click on its handle, and whatever the
network or a poll does. -/
def Move.isIdle : Move → Bool
  | .operate (.event event) => event != .toggleSelected
  | .operate _ => false
  | .answer _ _ => true
  | .poll => true

def Move.source? : Move → Option Nat
  | .operate (.event (.selectSource index)) => some index
  | _ => none

def lastSource (count before : Nat) (moves : List Move) : Nat :=
  ((moves.filterMap Move.source?).filter (· < count)).getLast?.getD before

theorem lastSource_cons (count before : Nat) (move : Move) (moves : List Move) :
    lastSource count before (move :: moves) =
      lastSource count (lastSource count before [move]) moves := by
  have hsplit : move :: moves = [move] ++ moves := rfl
  rw [lastSource, hsplit, List.filterMap_append, List.filter_append, List.getLast?_append,
    Option.getD_or]
  rfl

namespace Panel

/-- A panel that no event can make ask for anything, short of a click on its handle. -/
structure Dormant (p : Panel) : Prop where
  controls : p.controls = none
  inbox : p.inbox = []
  viewer : p.viewer? = none
  initialized : p.initialized = false

theorem dormant_bare (c : Container) (sources : String) (handle : Option String)
    (setting : Setting) : (bare c sources handle setting).Dormant where
  controls := rfl
  inbox := rfl
  viewer := by cases hplot : c.hasPlot <;> simp [viewer?, bare, hplot]
  initialized := rfl

variable {p : Panel}

theorem Dormant.poll (h : p.Dormant) : p.poll = (p, []) := by
  have hinbox : ({ p with inbox := [] } : Panel) = p := by rw [← h.inbox]
  have hviewer : p.pollViewer = (p, []) := by
    have hnone := h.viewer
    unfold pollViewer
    split
    · rename_i feed hcontent
      simp [viewer?, hcontent] at hnone
    · rfl
  simp only [Panel.poll, hinbox, h.inbox, applyAll, hviewer, List.append_nil]

theorem Dormant.act (h : p.Dormant) {event : Event} (hevent : event ≠ .toggleSelected) :
    Remarks (p.act event).2 ∧ ∃ hlt, (p.act event).1 = { p with
      active := lastSource p.sources.length p.active [.operate (.event event)]
      active_lt := hlt } := by
  cases event with
  | toggleSelected => contradiction
  | selectRange range =>
    have hact : p.act (.selectRange range) = (p, []) := by simp [Panel.act, h.controls]
    rw [hact]
    exact ⟨remarks_nil, p.active_lt, rfl⟩
  | selectSource index =>
    by_cases hlt : index < p.sources.length
    · have hlast : lastSource p.sources.length p.active [.operate (.event (.selectSource index))] =
          index := by simp [lastSource, Move.source?, hlt]
      simp only [Panel.act, p.selectSource_of_lt hlt, hlast]
      exact ⟨remarks_nil, hlt, trivial⟩
    · have hlast : lastSource p.sources.length p.active [.operate (.event (.selectSource index))] =
          p.active := by simp [lastSource, Move.source?, hlt]
      simp only [Panel.act, p.selectSource_of_not_lt hlt, hlast]
      exact ⟨⟨[_], rfl⟩, p.active_lt, trivial⟩
  | publishSelected =>
    exact ⟨p.remarks_publish h.controls, p.active_lt, rfl⟩
  | selectNext | selectPrevious | quit => exact ⟨remarks_nil, p.active_lt, rfl⟩

end Panel

namespace Session

def idle (p : Panel) : Session := ⟨p, [], [], [], [], []⟩

theorem idle_step {p : Panel} (h : p.Dormant) {move : Move} (hidle : move.isIdle = true) :
    ∃ hlt, (idle p).step move = idle { p with
      active := lastSource p.sources.length p.active [move], active_lt := hlt } := by
  cases move with
  | operate operation =>
    cases operation with
    | event event =>
      obtain ⟨hremarks, hlt, hact⟩ := h.act (by simpa [Move.isIdle] using hidle)
      refine ⟨hlt, ?_⟩
      change (idle p).perform (p.act event) = _
      rw [perform_remarks _ hremarks, hact]
      rfl
    | openUp | close | click | selectRange _ | selectSource _ | publish => contradiction
  | answer place server => exact ⟨p.active_lt, rfl⟩
  | poll =>
    refine ⟨p.active_lt, ?_⟩
    change (idle p).poll = idle p
    rw [poll_eq, show (idle p).panel.poll = (p, []) from h.poll]
    rfl

theorem idle_run {p : Panel} (h : p.Dormant) {moves : List Move}
    (hidle : ∀ move ∈ moves, move.isIdle = true) :
    ∃ hlt, (idle p).run moves = idle { p with
      active := lastSource p.sources.length p.active moves, active_lt := hlt } := by
  induction moves generalizing p with
  | nil => exact ⟨p.active_lt, rfl⟩
  | cons move moves ih =>
    -- The panel is dormant after the move too, since only the source that is chosen can differ.
    obtain ⟨hlt, hstep⟩ := idle_step h (hidle move List.mem_cons_self)
    obtain ⟨hlast, hrun⟩ := ih (p := { p with
        active := lastSource p.sources.length p.active [move], active_lt := hlt })
      ⟨h.controls, h.inbox, h.viewer, h.initialized⟩
      (fun later hlater => hidle later (List.mem_cons_of_mem _ hlater))
    simp only [run_cons, hstep, hrun, lastSource_cons p.sources.length p.active move moves]
    exact ⟨hlast, trivial⟩

theorem idle_open {p : Panel} (h : p.Dormant) (hhandle : p.handle.isSome)
    (hvisible : p.visible = false) :
    ((idle p).step (.operate (.event .toggleSelected))).panel = p.setUp.1.opened ∧
      ((idle p).step (.operate (.event .toggleSelected))).calls =
        [p.content.fetch p.id p.url p.setting.viewer] := by
  obtain ⟨handle, hsome⟩ := Option.isSome_iff_exists.1 hhandle
  have hclick : p.click = (p.setUp.1.opened, p.setUp.2) := by
    rw [← p.openUp_setUp h.initialized]
    simp [Panel.click, hsome, hvisible]
  have hcalls := p.calls_setUp
  change ((idle p).perform p.click).panel = _ ∧ ((idle p).perform p.click).calls = _
  rw [hclick]
  exact ⟨rfl, hcalls⟩

end Session

/-- A mounted panel with a handle calls nobody and stays as it is, whatever events it gets, until
its handle is clicked. The click opens it and asks once, for the source chosen last over the first
range. -/
theorem dormant_run {paint : Screen.Painter} {config : Config} {kind : ViewerKind}
    {board : Board} {effects : List PanelEffect}
    (hmount : Board.mount paint config kind = (.ok board, effects)) {i : Nat}
    {graph : Graph} (hgraph : config.graphs[i]? = some graph) (hhandle : graph.handle.isSome)
    {moves : List Move} (hidle : ∀ move ∈ moves, move.isIdle = true) :
    ∃ p, board.panels[i]? = some p ∧
      let s := (Session.start (p, effectsOf i effects)).run moves
      let sources := Panel.splitSources graph.sources
      s.calls = [] ∧ s.begun = [] ∧ s.panel.initialized = false ∧ s.panel.visible = false ∧
      s.panel.expanded = false ∧ s.panel.controls = none ∧ s.panel.viewer? = none ∧
      s.panel.shouldReload = true ∧ s.panel.range = .day ∧
      ∃ hlt : lastSource sources.length 0 moves < sources.length,
        let url := Panel.urlOf sources[lastSource sources.length 0 moves] .day
        let t := s.step (.operate (.event .toggleSelected))
        s.panel.url = url ∧
        t.calls = fetchTrace (graph.display == .series) kind graph.id [url] ∧
        t.panel.initialized = true ∧ t.panel.visible = true ∧ t.panel.expanded = true ∧
        t.panel.controls = some ⟨some .day, .idle⟩ ∧
        t.panel.handle.map Handle.isOpen = some true := by
  obtain ⟨p, hp, hpanel⟩ := Board.mount_getElem? hmount hgraph
  refine ⟨p, hp, ?_⟩
  obtain ⟨hbare, hremarks⟩ := Graph.panel_of_handle hpanel hhandle
  obtain ⟨hid, hplot, hhidden⟩ := Graph.container_of_handle hhandle
  let b := Panel.bare graph.container graph.sources graph.handle (config.setting kind)
  have hstart : Session.start (p, effectsOf i effects) = Session.idle b := by
    rw [show b = p from hbare.symm]
    exact Session.perform_remarks _ hremarks
  have hdormant : b.Dormant := Panel.dormant_bare _ _ _ _
  have hvisible : b.visible = false := hhidden
  have hhas : b.handle.isSome := by simpa [b, Panel.bare] using hhandle
  obtain ⟨hlt, hrun⟩ := Session.idle_run hdormant hidle
  let q : Panel := { b with active := lastSource b.sources.length b.active moves, active_lt := hlt }
  obtain ⟨hopened, hcalls⟩ := Session.idle_open (p := q)
    ⟨rfl, rfl, hdormant.viewer, rfl⟩ hhas hvisible
  have hfirst := (Content.suits_bare graph.container graph.sources graph.handle
    (config.setting kind)).fetchTrace_append graph.id q.url
  rw [hstart, hrun]
  refine ⟨rfl, rfl, rfl, hvisible, hvisible, rfl, hdormant.viewer, rfl, rfl, hlt, rfl, ?_, ?_⟩
  · rw [hplot] at hfirst
    rw [hcalls]
    change [q.content.fetch graph.container.id q.url kind] = _
    rw [hid]
    exact hfirst.symm
  · rw [hopened]
    refine ⟨rfl, rfl, rfl, rfl, ?_⟩
    obtain ⟨handle, hhandle⟩ := Option.isSome_iff_exists.1 hhas
    change (b.handle.map fun handle => { handle with isOpen := true }).map Handle.isOpen = some true
    rw [hhandle]
    rfl

theorem dormant_chosen :
    let graphs : List Graph := [⟨"load", none, "l", none, .image⟩,
      ⟨"octets", none, "a;b;c", some "more", .series⟩]
    let config : Config := ⟨none, "/", .standard, graphs⟩
    let moves : List Move := [.operate (.event (.selectSource 1)),
      .operate (.event (.selectRange .week)), .poll, .operate (.event (.selectSource 3)),
      .operate (.event .publishSelected), .operate (.event .selectNext)]
    ∃ board effects p, Board.mount Screen.paintBlack config .outside = (.ok board, effects) ∧
      board.panels[1]? = some p ∧ (∀ move ∈ moves, move.isIdle = true) ∧
      let s := (Session.start (p, effectsOf 1 effects)).run moves
      s.calls = [] ∧
        (s.step (.operate (.event .toggleSelected))).calls =
          [.attach "octets" "b?timeframe=day"] := by
  intro graphs config moves
  obtain ⟨board, effects, hmount⟩ :
      ∃ board effects, Board.mount Screen.paintBlack config .outside = (.ok board, effects) :=
    ⟨_, _, rfl⟩
  have hidle : ∀ move ∈ moves, move.isIdle = true := by decide
  obtain ⟨p, hp, hcalls, -, -, -, -, -, -, -, -, hlt, -, hopened, -⟩ :=
    dormant_run hmount (i := 1) rfl rfl hidle
  have hsource : (Panel.splitSources "a;b;c")[lastSource _ 0 moves] = "b" := rfl
  have hurl : Panel.urlOf "b" .day = "b?timeframe=day" := by decide
  refine ⟨board, effects, p, hmount, hp, hidle, hcalls, hopened.trans ?_⟩
  change [Call.attach "octets"
    (Panel.urlOf (Panel.splitSources "a;b;c")[lastSource _ 0 moves] .day)] = _
  rw [hsource, hurl]

end GraphBoard
