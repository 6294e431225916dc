import GraphBoard.Board.Loop
import GraphBoard.Proofs.Drawing
import GraphBoard.Proofs.Mounting
import GraphBoard.Proofs.Replies

set_option autoImplicit false

/-!
# Frames of the loop

The loop draws only when it is told that something has changed. It is told enough: wherever it goes
on to wait, the last frame is what drawing the board would give now, whatever has come in, whatever
was done and however large the screen has become. For this the panels need ids of their own, since
what is kept for drawing goes by the id. They have them where the configuration has passed its check
(`Board.nodup_ids_mount`).

Theorems about the loop are stated for a `Watch`, where other things happen between two turns.
`Loop.run` is what the program calls; `Watch.run_turns` says that it is a watch on which nothing but
turns happens, so what holds of every watch, here and of the order of signals, holds of it.
-/
namespace GraphBoard

open GraphBoard.Screen

theorem Feed.poll_of_not_hasNews {feed : Feed} (h : feed.hasNews = false) :
    feed.poll = (feed, []) := by
  obtain ⟨url, status, pending, inbox⟩ := feed
  simp only [hasNews, Bool.not_eq_false', List.isEmpty_iff] at h
  subst h
  rfl

namespace Panel

variable {p : Panel}

theorem poll_of_not_hasNews (h : p.hasNews = false) : p.poll = (p, []) := by
  simp only [hasNews, Bool.or_eq_false_iff, Bool.not_eq_false', List.isEmpty_iff] at h
  obtain ⟨hinbox, hviewer⟩ := h
  have hdrained : ({ p with inbox := [] } : Panel) = p := by
    rw [← hinbox]
  simp only [poll, hinbox, applyAll, hdrained, List.nil_append]
  simp only [pollViewer]
  split
  · rename_i feed hcontent
    rw [hcontent] at hviewer
    rw [Feed.poll_of_not_hasNews hviewer, ← hcontent]
  · rfl

theorem hasNews_pollViewer (h : p.inbox = []) : p.pollViewer.1.hasNews = false := by
  simp only [pollViewer]
  split
  · rename_i feed hcontent
    simp only [hasNews, h, Feed.hasNews, Feed.poll_eq, List.isEmpty_nil, Bool.not_true,
      Bool.or_false]
  · simp only [hasNews, h, List.isEmpty_nil, Bool.not_true, Bool.false_or]

theorem hasNews_poll (p : Panel) : p.poll.1.hasNews = false :=
  hasNews_pollViewer (inbox_applyAll { p with inbox := [] } p.inbox)

end Panel

namespace Board

variable {b : Board}

theorem panels_pollPanels (i : Nat) (panels : List Panel) :
    (pollPanels i panels).1 = panels.map (·.poll.1) := by
  induction panels generalizing i with
  | nil => rfl
  | cons p panels ih =>
    rw [List.map_cons, ← ih (i + 1)]
    rfl

theorem pollPanels_of_not_hasNews {panels : List Panel} (h : ∀ p ∈ panels, p.hasNews = false)
    (i : Nat) : pollPanels i panels = (panels, []) := by
  induction panels generalizing i with
  | nil => rfl
  | cons p panels ih =>
    obtain ⟨hp, hrest⟩ := List.forall_mem_cons.1 h
    simp only [pollPanels, Panel.poll_of_not_hasNews hp, ih hrest]
    rfl

theorem poll_board (b : Board) :
    ∃ spinner, b.poll.1 = { b with panels := b.panels.map (·.poll.1), spinner } := by
  unfold poll
  rw [← panels_pollPanels 0]
  dsimp only
  split <;> exact ⟨_, rfl⟩

theorem panels_poll (b : Board) : b.poll.1.panels = b.panels.map (·.poll.1) := by
  obtain ⟨spinner, hpoll⟩ := b.poll_board
  rw [hpoll]

theorem poll_of_unchanged (h : b.poll.2.2 = false) : b.poll = (b, [], false) := by
  unfold poll at h
  dsimp only at h
  split at h
  · contradiction
  · rename_i hloading
    have hnews : ∀ p ∈ b.panels, p.hasNews = false := by
      simpa [List.any_eq_false] using h
    have hpolled := pollPanels_of_not_hasNews hnews 0
    unfold poll
    rw [hpolled] at hloading ⊢
    dsimp only at hloading ⊢
    rw [if_neg hloading]
    exact congrArg (fun news => (b, ([] : List PanelEffect), news)) h

theorem act_of_panel {event : Event} (hquit : event ≠ .quit) (hnext : event ≠ .selectNext)
    (hprevious : event ≠ .selectPrevious) (b : Board) :
    b.act event = b.actOn b.selected (·.act event) := by
  cases event with
  | quit | selectNext | selectPrevious => contradiction
  | toggleSelected | selectRange range | selectSource index | publishSelected => rfl

/-- An event quits or selects another panel, or else it is for the one that is selected. -/
theorem act_cases (event : Event) : event = .quit ∨
    (∃ move : Nat → Nat → Nat, (∀ s n, s < n → move s n < n) ∧
      ∀ b : Board, b.act event = ({ b with selected := move b.selected b.panels.length }, [])) ∨
    ∀ b : Board, b.act event = b.actOn b.selected (·.act event) := by
  have hselect : ∀ (b : Board) (selected : Nat), (if b.panels.isEmpty then b
      else { b with selected }) =
      { b with selected := if b.panels.length = 0 then b.selected else selected } := by
    rintro ⟨running, panels, before, page, spinner, cache⟩ selected
    cases panels <;> rfl
  have hmod : ∀ s t n : Nat, s < n → (if n = 0 then s else t % n) < n := by
    intro s t n hs
    rw [if_neg (by omega)]
    exact Nat.mod_lt t (by omega)
  cases event with
  | quit => exact .inl rfl
  | selectNext =>
    exact .inr (.inl ⟨fun s n => if n = 0 then s else (s + 1) % n, fun s n => hmod s _ n,
      fun b => congrArg (·, []) (hselect b _)⟩)
  | selectPrevious =>
    exact .inr (.inl ⟨fun s n => if n = 0 then s else (s + n - 1) % n, fun s n => hmod s _ n,
      fun b => congrArg (·, []) (hselect b _)⟩)
  | toggleSelected | selectRange range | selectSource index | publishSelected =>
    exact .inr (.inr (act_of_panel nofun nofun nofun))

section
variable {α : Type} {f : Panel → α} (hf : Panel.Fixed f)
include hf

theorem map_poll (b : Board) : b.poll.1.panels.map f = b.panels.map f := by
  rw [panels_poll, List.map_map]
  exact List.map_congr_left fun p _ => hf.offline p.offline_poll

theorem map_receive (b : Board) (k : Nat) (message : Message) :
    (b.receive k message).panels.map f = b.panels.map f :=
  map_modify (fun p => hf.offline (p.offline_receive message)) k b.panels

theorem map_actOn (b : Board) (k : Nat) (event : Event) :
    (b.actOn k (·.act event)).1.panels.map f = b.panels.map f := by
  unfold actOn
  split
  · rename_i p hp
    obtain ⟨hk, rfl⟩ := List.getElem?_eq_some_iff.1 hp
    have hlength : k < (b.panels.map f).length := by rwa [List.length_map]
    have hkept : f (b.panels[k].act event).1 = (b.panels.map f)[k] := by
      rw [List.getElem_map]
      exact hf.operate b.panels[k] (.event event)
    change (b.panels.set k _).map f = _
    rw [List.map_set, hkept, List.set_getElem_self]
  · rfl

theorem map_act (b : Board) (event : Event) :
    (b.act event).1.panels.map f = b.panels.map f := by
  obtain rfl | ⟨move, -, hact⟩ | hact := act_cases event
  · rfl
  · rw [hact]
  · rw [hact]
    exact map_actOn hf b b.selected event

end

end Board

namespace Loop

variable {l : Loop} {a : Area}

def settle (l : Loop) (a : Area) : Loop := if l.board.running then l.redraw a else l

def turn (l : Loop) (a : Area) : Loop :=
  match l.board.running, l.queue with
  | true, signal :: queue => ({ l with queue }.handle signal).1.settle a
  | _, _ => l

theorem turn_cons {signal : Signal} {queue : List Signal} (hrunning : l.board.running = true)
    (hqueue : l.queue = signal :: queue) (a : Area) :
    l.turn a = ({ l with queue }.handle signal).1.settle a := by
  simp only [turn, hrunning, hqueue]

theorem turn_nil (hqueue : l.queue = []) (a : Area) : l.turn a = l := by
  unfold turn
  split
  · rename_i heq
    rw [hqueue] at heq
    contradiction
  · rfl

theorem turn_of_not_running (h : l.board.running = false) (a : Area) : l.turn a = l := by
  simp only [turn, h]

theorem dirty_redraw (l : Loop) (a : Area) : (l.redraw a).dirty = false := by
  unfold redraw
  split
  · rfl
  · rename_i h
    simpa using h

theorem redraw_of_clean (h : l.dirty = false) (a : Area) : l.redraw a = l := by
  simp [redraw, h]

theorem redraw_of_dirty (h : l.dirty = true) (a : Area) : l.redraw a =
    { l with
      board := (l.board.draw (.blank a.right a.bottom) a).1
      frame := l.board.frame a
      dirty := false } := by
  simp only [redraw, h]
  rfl

theorem running_redraw (l : Loop) (a : Area) : (l.redraw a).board.running = l.board.running := by
  cases h : l.dirty with
  | false => rw [redraw_of_clean h]
  | true =>
    obtain ⟨cache, spinner, hboard⟩ := l.board.draw_board (.blank a.right a.bottom) a
    rw [redraw_of_dirty h, hboard]

theorem settle_of_running (h : l.board.running = true) (a : Area) : l.settle a = l.redraw a :=
  if_pos h

theorem settle_of_not_running (h : l.board.running = false) (a : Area) : l.settle a = l :=
  if_neg (by simp [h])

theorem run_of_not_running (h : l.board.running = false) (a : Area) (n : Nat) :
    l.run a n = (l, []) := by
  cases n <;> simp [run, h]

theorem run_of_running (h : l.board.running = true) (a : Area) (n : Nat) :
    l.run a (n + 1) =
      match (l.redraw a).queue with
      | [] => (l.redraw a, [])
      | signal :: queue =>
        let handled := { l.redraw a with queue }.handle signal
        ((handled.1.run a n).1, handled.2 ++ (handled.1.run a n).2) := if_pos h

/-- A signal that leaves nothing to draw leaves the board and the frame as they are, and it is not
the one that tells of another screen. -/
theorem handle_of_clean {signal : Signal} (h : (l.handle signal).1.dirty = false) :
    (l.handle signal).1.board = l.board ∧ (l.handle signal).1.frame = l.frame ∧
      (Signal.resize ∉ (l.handle signal).1.queue → Signal.resize ∉ signal :: l.queue) := by
  have hother : signal ≠ .resize → Signal.resize ∉ l.queue →
      Signal.resize ∉ signal :: l.queue := by
    intro hne hqueue hmem
    obtain heq | hmem := List.mem_cons.1 hmem
    · exact hne heq.symm
    · exact hqueue hmem
  cases signal with
  | tick =>
    have hpoll : l.board.poll = (l.board, [], false) := Board.poll_of_unchanged h
    exact ⟨congrArg (·.1) hpoll, rfl, hother nofun⟩
  | key key =>
    exact ⟨rfl, rfl, fun hqueue => hother nofun fun hmem => hqueue (List.mem_append_left _ hmem)⟩
  | resize => contradiction
  | other => exact ⟨rfl, rfl, hother nofun⟩
  | event event => contradiction

theorem ids_handle (l : Loop) (signal : Signal) :
    (l.handle signal).1.board.panels.map Panel.id = l.board.panels.map Panel.id := by
  cases signal with
  | tick => exact Board.map_poll Panel.fixed_id l.board
  | key key => rfl
  | resize => rfl
  | other => rfl
  | event event => exact Board.map_act Panel.fixed_id l.board event

end Loop

structure Watch where
  loop : Loop
  screen : Area

inductive Happening where
  | answer (k : Nat) (message : Message)
  | signal (signal : Signal)
  | resize (screen : Area)
  | turn

namespace Watch

def start (board : Board) (screen : Area) (queue : List Signal) : Watch :=
  ⟨(Loop.new board screen.right screen.bottom queue).settle screen, screen⟩

def step (w : Watch) : Happening → Watch
  | .answer k message =>
    { w with loop := { w.loop with board := w.loop.board.receive k message } }
  | .signal signal => { w with loop := { w.loop with queue := w.loop.queue ++ [signal] } }
  | .resize screen => ⟨{ w.loop with queue := w.loop.queue ++ [.resize] }, screen⟩
  | .turn => { w with loop := w.loop.turn w.screen }

def run (w : Watch) (happenings : List Happening) : Watch := happenings.foldl step w

theorem run_turns_succ (l : Loop) (a : Area) (n : Nat) :
    (⟨l, a⟩ : Watch).run (List.replicate (n + 1) .turn) =
      (⟨l.turn a, a⟩ : Watch).run (List.replicate n .turn) := rfl

theorem run_turns_of_fixed {l : Loop} {a : Area} (h : l.turn a = l) (n : Nat) :
    (⟨l, a⟩ : Watch).run (List.replicate n .turn) = ⟨l, a⟩ := by
  induction n with
  | zero => rfl
  | succ n ih => rw [run_turns_succ, h, ih]

/-- The loop over the signals that wait is a watch of so many turns. -/
theorem run_turns (a : Area) (n : Nat) (l : Loop) :
    (⟨l.settle a, a⟩ : Watch).run (List.replicate n .turn) = ⟨(l.run a n).1.settle a, a⟩ := by
  induction n generalizing l with
  | zero => rfl
  | succ n ih =>
    cases hrunning : l.board.running with
    | false =>
      rw [Loop.run_of_not_running hrunning, Loop.settle_of_not_running hrunning,
        run_turns_of_fixed (Loop.turn_of_not_running hrunning a)]
    | true =>
      have hredraw : (l.redraw a).board.running = true := (l.running_redraw a).trans hrunning
      rw [Loop.run_of_running hrunning, Loop.settle_of_running hrunning]
      cases hqueue : (l.redraw a).queue with
      | nil =>
        rw [run_turns_of_fixed (Loop.turn_nil hqueue a), Loop.settle_of_running hredraw,
          Loop.redraw_of_clean (l.dirty_redraw a)]
      | cons signal queue =>
        rw [run_turns_succ, Loop.turn_cons hredraw hqueue]
        exact ih _

/-- What holds where the loop waits: there is nothing to draw, and the last frame is the board as it
is now, on the screen as it is now unless the loop is still to be told of another size. -/
structure Current (w : Watch) : Prop where
  ids : (w.loop.board.panels.map Panel.id).Nodup
  clean : w.loop.board.running = true → w.loop.dirty = false
  frame : w.loop.board.running = true →
    ∃ a, w.loop.frame = w.loop.board.frame a ∧ (Signal.resize ∉ w.loop.queue → a = w.screen)

variable {w : Watch}

theorem current_settle {l : Loop} {screen : Area} (hids : (l.board.panels.map Panel.id).Nodup)
    (hframe : l.board.running = true → l.dirty = false →
      ∃ a, l.frame = l.board.frame a ∧ (Signal.resize ∉ l.queue → a = screen)) :
    (⟨l.settle screen, screen⟩ : Watch).Current := by
  cases hrunning : l.board.running with
  | false =>
    rw [Loop.settle_of_not_running hrunning]
    refine ⟨hids, fun h => ?_, fun h => ?_⟩ <;> rw [hrunning] at h <;> contradiction
  | true =>
    rw [Loop.settle_of_running hrunning]
    cases hdirty : l.dirty with
    | false =>
      rw [Loop.redraw_of_clean hdirty]
      exact ⟨hids, fun _ => hdirty, fun _ => hframe hrunning hdirty⟩
    | true =>
      obtain ⟨cache, spinner, hboard⟩ :=
        l.board.draw_board (.blank screen.right screen.bottom) screen
      rw [Loop.redraw_of_dirty hdirty]
      refine ⟨?_, fun _ => rfl, fun _ => ⟨screen, ?_, fun _ => rfl⟩⟩
      · rw [hboard]
        exact hids
      · exact congrArg (·.2) (Board.draw_again hids _ screen).symm

theorem Current.step (h : w.Current) (happening : Happening) : (w.step happening).Current := by
  cases happening with
  | answer k message =>
    refine ⟨?_, h.clean, fun hrunning => ?_⟩
    · change ((w.loop.board.receive k message).panels.map Panel.id).Nodup
      rw [Board.map_receive Panel.fixed_id]
      exact h.ids
    · obtain ⟨a, hframe, hscreen⟩ := h.frame hrunning
      exact ⟨a, hframe.trans (w.loop.board.frame_receive k message a).symm, hscreen⟩
  | signal signal =>
    refine ⟨h.ids, h.clean, fun hrunning => ?_⟩
    obtain ⟨a, hframe, hscreen⟩ := h.frame hrunning
    exact ⟨a, hframe, fun hqueue => hscreen fun hmem => hqueue (List.mem_append_left _ hmem)⟩
  | resize screen =>
    refine ⟨h.ids, h.clean, fun hrunning => ?_⟩
    obtain ⟨a, hframe, -⟩ := h.frame hrunning
    exact ⟨a, hframe, fun hqueue => absurd (List.mem_append_right _ List.mem_cons_self) hqueue⟩
  | turn =>
    change (⟨w.loop.turn w.screen, w.screen⟩ : Watch).Current
    cases hrunning : w.loop.board.running with
    | false =>
      rw [Loop.turn_of_not_running hrunning]
      exact h
    | true =>
      cases hqueue : w.loop.queue with
      | nil =>
        rw [Loop.turn_nil hqueue]
        exact h
      | cons signal queue =>
        rw [Loop.turn_cons hrunning hqueue]
        refine current_settle ?_ fun _ hclean => ?_
        · rw [Loop.ids_handle]
          exact h.ids
        · obtain ⟨hboard, hframe, hresize⟩ :=
            Loop.handle_of_clean (l := { w.loop with queue }) hclean
          obtain ⟨a, hlast, hscreen⟩ := h.frame hrunning
          rw [hqueue] at hscreen
          rw [hboard, hframe]
          exact ⟨a, hlast, fun hrest => hscreen (hresize hrest)⟩

theorem current_start {board : Board} (hids : (board.panels.map Panel.id).Nodup) (screen : Area)
    (queue : List Signal) : (start board screen queue).Current :=
  current_settle hids fun _ hclean => absurd hclean (by simp [Loop.new])

theorem Current.run (h : w.Current) (happenings : List Happening) :
    (w.run happenings).Current := by
  induction happenings generalizing w with
  | nil => exact h
  | cons happening happenings ih => exact ih (h.step happening)

end Watch

/-- Wherever the loop waits while a board of panels with ids of their own is running, the last
frame is what drawing the board would give, and a board that has been drawn looks the same when
drawn again. Whatever the ids, a poll that tells of no change has made none and left no panel out,
and keys only put signals in the queue. -/
theorem frames_run (board : Board) (screen : Area) (queue : List Signal)
    (happenings : List Happening) :
    let w := (Watch.start board screen queue).run happenings
    ((board.panels.map Panel.id).Nodup →
      (w.loop.board.running = true →
        ∃ a, w.loop.frame = (w.loop.board.draw (.blank a.right a.bottom) a).2 ∧
          (Signal.resize ∉ w.loop.queue → a = w.screen)) ∧
      ∀ g a, ((w.loop.board.draw g a).1.draw g a).2 = (w.loop.board.draw g a).2) ∧
    (w.loop.board.poll.2.2 = false → w.loop.board.poll.1 = w.loop.board) ∧
    (w.loop.board.poll.1.panels = w.loop.board.panels.map (·.poll.1) ∧
      ∀ p ∈ w.loop.board.poll.1.panels, p.hasNews = false) ∧
    ∀ key, ∃ more,
      w.loop.handle (.key key) = ({ w.loop with queue := w.loop.queue ++ more }, []) := by
  intro w
  refine ⟨fun hids => ?_, fun hpoll => ?_, ⟨w.loop.board.panels_poll, ?_⟩, fun key => ⟨_, rfl⟩⟩
  · have h : w.Current := (Watch.current_start hids screen queue).run happenings
    refine ⟨h.frame, fun g a => ?_⟩
    rw [Board.draw_again h.ids]
  · rw [Board.poll_of_unchanged hpoll]
  · intro p hp
    rw [Board.panels_poll] at hp
    obtain ⟨q, -, rfl⟩ := List.mem_map.1 hp
    exact q.hasNews_poll

theorem frames_run_resized :
    let setting : Setting := ⟨.standard, "/p", .chart⟩
    let board := Board.new paintBlack "/p" [Panel.bare (.new "cpu" "CPU" false) "/cpu" none setting,
      Panel.bare (.new "mem" "Memory" true) "/mem" none setting]
    let w := (Watch.start board ⟨0, 0, 40, 10⟩ []).run
      [.answer 0 (.notice (.image "/cpu?timeframe=day" (.ok (.black 16 16)))), .signal .tick,
        .turn, .resize ⟨0, 0, 60, 12⟩, .turn]
    w.loop.queue = [] ∧
      w.loop.frame = (w.loop.board.draw (.blank 60 12) ⟨0, 0, 60, 12⟩).2 := by
  intro setting board w
  have hids : (board.panels.map Panel.id).Nodup := by decide
  obtain ⟨hcurrent, -⟩ := (frames_run board ⟨0, 0, 40, 10⟩ []
    [.answer 0 (.notice (.image "/cpu?timeframe=day" (.ok (.black 16 16)))), .signal .tick,
      .turn, .resize ⟨0, 0, 60, 12⟩, .turn]).1 hids
  have hqueue : w.loop.queue = [] := by decide +kernel
  obtain ⟨a, hframe, hscreen⟩ := hcurrent (by decide +kernel)
  obtain rfl := hscreen (by decide +kernel)
  exact ⟨hqueue, hframe⟩

def oneName : Config :=
  let graph (source : String) : Graph := ⟨"x", none, source, none, .image⟩
  ⟨none, "/p", .standard, [graph "/u", graph "/v", graph "/u"]⟩

/-- The last panel leaves its picture for the first, which would be drawn with it now. -/
theorem frame_of_one_name : ∃ board effects,
    Board.mount paintBlack oneName .chart = (.ok board, effects) ∧
    let found (k : Nat) (url : String) (picture : Picture) : Happening :=
      .answer k (.notice (.image url (.ok picture)))
    let w := (Watch.start board ⟨0, 0, 4, 14⟩ []).run
      [found 0 "/u?timeframe=day" (.black 16 16), found 1 "/v?timeframe=day" (.black 16 16),
        found 2 "/u?timeframe=day" (.black 8 16), .signal .tick, .turn]
    w.loop.board.running = true ∧ w.loop.queue = [] ∧
      w.loop.frame ≠ (w.loop.board.draw (.blank 4 14) ⟨0, 0, 4, 14⟩).2 := by
  refine ⟨_, _, rfl, ?_⟩
  intro found w
  decide +kernel

end GraphBoard
