import GraphBoard.Proofs.OfflineBoard

set_option autoImplicit false

/-!
# The order of signals

The loop takes signals in the order in which they joined the queue, each once. What a key asks for
joins the queue behind all that waits by then, so it is acted on later than the key is taken. The
first signal to quit ends this: what stood ahead of it has been taken by then, and nothing is taken
after it.

The loop waits for nothing but the next signal. What comes in while it acts on one joins the queue
in the same place as if it had come in just before.
-/
namespace GraphBoard

def Signal.event? : Signal → Option Event
  | .event wanted => some wanted
  | _ => none

def Signal.key? : Signal → Option Key
  | .key pressed => some pressed
  | _ => none

inductive QueueEntry where
  | arrived (signal : Signal)
  | asked (event : Event)

namespace QueueEntry

def signal : QueueEntry → Signal
  | arrived came => came
  | asked event => .event event

def arrived? : QueueEntry → Option Signal
  | arrived came => some came
  | asked _ => none

def asked? : QueueEntry → Option Event
  | arrived _ => none
  | asked event => some event

end QueueEntry

def Signal.entries (signal : Signal) : List QueueEntry :=
  ((signal.key?.bind Key.event?).map .asked).toList

theorem Signal.asked_entries (signal : Signal) : signal.entries.filterMap QueueEntry.asked? =
    ([signal].filterMap key?).filterMap Key.event? := by
  cases signal with
  | key pressed =>
    change ((pressed.event?.map QueueEntry.asked).toList).filterMap QueueEntry.asked? =
      [pressed].filterMap Key.event?
    rw [List.filterMap_cons]
    cases pressed.event? <;> rfl
  | tick | resize | other | event _ => rfl

namespace Happening

def signal? : Happening → Option Signal
  | answer _ _ => none
  | signal came => some came
  | resize _ => some .resize
  | turn => none

def answer? : Happening → Option (Nat × Message)
  | answer k message => some (k, message)
  | _ => none

def isTurn : Happening → Bool
  | turn => true
  | _ => false

end Happening

namespace Loop

theorem queue_settle (l : Loop) (a : Screen.Area) : (l.settle a).queue = l.queue := by
  unfold settle redraw
  split
  · split <;> rfl
  · rfl

theorem offline_settle (l : Loop) (a : Screen.Area) :
    (l.settle a).board.offline = l.board.offline := by
  unfold settle redraw
  split
  · split
    · exact l.board.offline_draw _ a
    · rfl
  · rfl

theorem queue_handle (l : Loop) (signal : Signal) :
    (l.handle signal).1.queue = l.queue ++ signal.entries.map QueueEntry.signal := by
  cases signal with
  | key key =>
    change l.queue ++ (key.event?.map Signal.event).toList =
      l.queue ++ ((key.event?.map QueueEntry.asked).toList).map QueueEntry.signal
    cases key.event? <;> rfl
  | tick => exact (List.append_nil _).symm
  | resize => exact (List.append_nil _).symm
  | other => exact (List.append_nil _).symm
  | event event => exact (List.append_nil _).symm

theorem handle_congr {l : Loop} {b : Board} (h : l.board.offline = b.offline) (signal : Signal) :
    (l.handle signal).1.board.offline = (b.actAll signal.event?.toList).1.offline ∧
      boardCalls (l.handle signal).2 = boardCalls (b.actAll signal.event?.toList).2 := by
  cases signal with
  | tick => exact ⟨l.board.offline_poll.trans h, l.board.boardCalls_poll⟩
  | key key => exact ⟨h, rfl⟩
  | resize => exact ⟨h, rfl⟩
  | other => exact ⟨h, rfl⟩
  | event event =>
    obtain ⟨hboard, heffects⟩ := Board.act_congr h event
    refine ⟨hboard, ?_⟩
    change boardCalls (l.board.act event).2 = boardCalls ((b.act event).2 ++ [])
    rw [heffects, List.append_nil]

end Loop

/-- A loop with a record of the signals that have joined the queue, of those that were taken and of
the effects. No step looks at the record. -/
structure Ledger where
  watch : Watch
  joined : List QueueEntry
  taken : List Signal
  effects : List PanelEffect

namespace Ledger

def start (board : Board) (screen : Screen.Area) (queue : List Signal) : Ledger :=
  ⟨.start board screen queue, queue.map .arrived, [], []⟩

def take (r : Ledger) (signal : Signal) (queue : List Signal) : Ledger where
  watch := r.watch.step .turn
  joined := r.joined ++ signal.entries
  taken := r.taken ++ [signal]
  effects := r.effects ++ ({ r.watch.loop with queue }.handle signal).2

def step (r : Ledger) : Happening → Ledger
  | .turn =>
    match r.watch.loop.board.running, r.watch.loop.queue with
    | true, signal :: queue => r.take signal queue
    | _, _ => r
  | happening =>
    { r with
      watch := r.watch.step happening
      joined := r.joined ++ (happening.signal?.map .arrived).toList }

def run (r : Ledger) (happenings : List Happening) : Ledger := happenings.foldl step r

theorem run_append (r : Ledger) (happenings more : List Happening) :
    r.run (happenings ++ more) = (r.run happenings).run more := List.foldl_append

def handled (r : Ledger) : List Event := r.taken.filterMap Signal.event?

inductive Stepped (r : Ledger) : Happening → Ledger → Prop where
  | outside {happening : Happening} (not_turn : happening.isTurn = false)
      (queue : (r.watch.step happening).loop.queue =
        r.watch.loop.queue ++ happening.signal?.toList)
      (board : (r.watch.step happening).loop.board.offline = r.watch.loop.board.offline) :
      Stepped r happening
        { r with
          watch := r.watch.step happening
          joined := r.joined ++ (happening.signal?.map .arrived).toList }
  | stopped (not_running : r.watch.loop.board.running = false) : Stepped r .turn r
  | idle (queue : r.watch.loop.queue = []) : Stepped r .turn r
  | take {signal : Signal} {queue : List Signal} (running : r.watch.loop.board.running = true)
      (first : r.watch.loop.queue = signal :: queue)
      (loop : (r.watch.step .turn).loop =
        ({ r.watch.loop with queue }.handle signal).1.settle r.watch.screen) :
      Stepped r .turn (r.take signal queue)

theorem stepped (r : Ledger) (happening : Happening) : r.Stepped happening (r.step happening) := by
  cases happening with
  | answer k message =>
    exact .outside rfl (List.append_nil _).symm (r.watch.loop.board.offline_receive k message)
  | signal signal => exact .outside rfl rfl rfl
  | resize screen => exact .outside rfl rfl rfl
  | turn =>
    cases hrunning : r.watch.loop.board.running with
    | false =>
      simp only [step, hrunning]
      exact .stopped hrunning
    | true =>
      cases hqueue : r.watch.loop.queue with
      | nil =>
        have hstep : r.step .turn = r := by simp only [step, hrunning, hqueue]
        rw [hstep]
        exact .idle hqueue
      | cons signal queue =>
        simp only [step, hrunning, hqueue]
        exact .take hrunning hqueue (Loop.turn_cons hrunning hqueue r.watch.screen)

theorem watch_step (r : Ledger) (happening : Happening) :
    (r.step happening).watch = r.watch.step happening := by
  have hstepped := r.stepped happening
  generalize r.step happening = s at hstepped
  cases hstepped with
  | outside => rfl
  | stopped hrunning =>
    change r.watch = { r.watch with loop := r.watch.loop.turn r.watch.screen }
    rw [Loop.turn_of_not_running hrunning]
  | idle hqueue =>
    change r.watch = { r.watch with loop := r.watch.loop.turn r.watch.screen }
    rw [Loop.turn_nil hqueue]
  | take => rfl

theorem watch_run (r : Ledger) (happenings : List Happening) :
    (r.run happenings).watch = r.watch.run happenings := by
  induction happenings generalizing r with
  | nil => rfl
  | cons happening happenings ih =>
    exact (ih _).trans (congrArg (Watch.run · happenings) (r.watch_step happening))

/-- What was taken and what still waits is what has joined the queue, in this order. -/
structure Ordered (r : Ledger) : Prop where
  queue : r.joined.map QueueEntry.signal = r.taken ++ r.watch.loop.queue
  asked : r.joined.filterMap QueueEntry.asked? =
    (r.taken.filterMap Signal.key?).filterMap Key.event?

/-- The board and the calls are as if the events that were acted on had been all there was, and
nothing was taken after an event that quits. -/
structure Acted (board : Board) (r : Ledger) : Prop where
  offline : r.watch.loop.board.offline = (board.actAll r.handled).1.offline
  calls : boardCalls r.effects = boardCalls (board.actAll r.handled).2
  last : .event .quit ∉ r.taken.dropLast

variable {r : Ledger} {board : Board}

theorem mem_handled {event : Event} : event ∈ r.handled ↔ .event event ∈ r.taken := by
  constructor
  · intro hhandled
    obtain ⟨signal, htaken, hevent⟩ := List.mem_filterMap.1 hhandled
    cases signal with
    | event wanted =>
      cases hevent
      exact htaken
    | tick | key _ | resize | other => contradiction
  · intro htaken
    exact List.mem_filterMap.2 ⟨_, htaken, rfl⟩

theorem Acted.running (h : r.Acted board) :
    r.watch.loop.board.running = (board.running && decide (.event .quit ∉ r.taken)) := by
  rw [Board.running_of_offline h.offline, Board.running_actAll]
  simp only [mem_handled]

theorem Acted.not_quit (h : r.Acted board) (hrunning : r.watch.loop.board.running = true) :
    .event .quit ∉ r.taken := by
  rw [h.running, Bool.and_eq_true, decide_eq_true_eq] at hrunning
  exact hrunning.2

theorem Ordered.step (h : r.Ordered) (happening : Happening) : (r.step happening).Ordered := by
  have hstepped := r.stepped happening
  generalize r.step happening = s at hstepped
  cases hstepped with
  | outside not_turn queue board =>
    refine ⟨?_, ?_⟩
    · change (r.joined ++ _).map QueueEntry.signal = r.taken ++ (r.watch.step happening).loop.queue
      rw [List.map_append, h.queue, queue, List.append_assoc]
      cases happening.signal? <;> rfl
    · change (r.joined ++ _).filterMap QueueEntry.asked? = _
      rw [List.filterMap_append, h.asked]
      cases happening.signal? <;> exact List.append_nil _
  | stopped | idle => exact h
  | take running first loop =>
    rename_i signal queue
    refine ⟨?_, ?_⟩
    · change (r.joined ++ signal.entries).map QueueEntry.signal =
        (r.taken ++ [signal]) ++ (r.watch.step .turn).loop.queue
      rw [List.map_append, h.queue, first, loop, Loop.queue_settle, Loop.queue_handle]
      simp only [List.append_assoc, List.cons_append, List.nil_append]
    · change (r.joined ++ signal.entries).filterMap QueueEntry.asked? =
        ((r.taken ++ [signal]).filterMap Signal.key?).filterMap Key.event?
      rw [List.filterMap_append, List.filterMap_append, List.filterMap_append, h.asked,
        Signal.asked_entries]

theorem Acted.step (h : r.Acted board) (happening : Happening) :
    (r.step happening).Acted board := by
  have hstepped := r.stepped happening
  generalize r.step happening = s at hstepped
  cases hstepped with
  | outside not_turn queue board => exact ⟨board.trans h.offline, h.calls, h.last⟩
  | stopped | idle => exact h
  | take running first loop =>
    rename_i signal queue
    have hhandled : (r.take signal queue).handled = r.handled ++ signal.event?.toList := by
      change (r.taken ++ [signal]).filterMap Signal.event? = _
      rw [List.filterMap_append]
      cases signal <;> rfl
    obtain ⟨hboard, hcalls⟩ :=
      Loop.handle_congr (l := { r.watch.loop with queue }) h.offline signal
    refine ⟨?_, ?_, ?_⟩
    · change (r.watch.step .turn).loop.board.offline = _
      rw [loop, Loop.offline_settle, hhandled, Board.actAll_append]
      exact hboard
    · change boardCalls (r.effects ++ _) = _
      rw [boardCalls_append, h.calls, hcalls, hhandled, Board.actAll_append, boardCalls_append]
    · change _ ∉ (r.taken ++ [signal]).dropLast
      rw [List.dropLast_concat]
      exact h.not_quit running

theorem ordered_start (board : Board) (screen : Screen.Area) (queue : List Signal) :
    (start board screen queue).Ordered where
  queue := by
    change (queue.map QueueEntry.arrived).map QueueEntry.signal = _
    rw [List.map_map]
    have hsettle := Loop.queue_settle (.new board screen.right screen.bottom queue) screen
    exact (List.map_id queue).trans hsettle.symm
  asked := by
    change (queue.map QueueEntry.arrived).filterMap QueueEntry.asked? = []
    simp [List.filterMap_map, QueueEntry.asked?, Function.comp_def]

theorem acted_start (board : Board) (screen : Screen.Area) (queue : List Signal) :
    (start board screen queue).Acted board where
  offline := Loop.offline_settle _ _
  calls := rfl
  last := List.not_mem_nil

theorem run_keeps {I : Ledger → Prop} (hstep : ∀ r happening, I r → I (r.step happening))
    (hr : I r) (happenings : List Happening) : I (r.run happenings) := by
  induction happenings generalizing r with
  | nil => exact hr
  | cons happening happenings ih => exact ih (hstep r happening hr)

theorem Ordered.run (h : r.Ordered) (happenings : List Happening) : (r.run happenings).Ordered :=
  run_keeps (fun _ happening h => h.step happening) h happenings

theorem Acted.run (h : r.Acted board) (happenings : List Happening) :
    (r.run happenings).Acted board :=
  run_keeps (fun _ happening h => h.step happening) h happenings

theorem arrived_step (r : Ledger) (happening : Happening) :
    (r.step happening).joined.filterMap QueueEntry.arrived? =
      r.joined.filterMap QueueEntry.arrived? ++ happening.signal?.toList := by
  have hstepped := r.stepped happening
  generalize r.step happening = s at hstepped
  cases hstepped with
  | outside not_turn queue board =>
    change (r.joined ++ _).filterMap QueueEntry.arrived? = _
    rw [List.filterMap_append]
    cases happening.signal? <;> rfl
  | stopped | idle => exact (List.append_nil _).symm
  | take running first loop =>
    rename_i signal queue
    change (r.joined ++ signal.entries).filterMap QueueEntry.arrived? = _
    rw [List.filterMap_append, Signal.entries]
    cases signal.key?.bind Key.event? <;> rfl

theorem arrived_run (r : Ledger) (happenings : List Happening) :
    (r.run happenings).joined.filterMap QueueEntry.arrived? =
      r.joined.filterMap QueueEntry.arrived? ++ happenings.filterMap Happening.signal? := by
  induction happenings generalizing r with
  | nil => exact (List.append_nil _).symm
  | cons happening happenings ih =>
    change ((r.step happening).run happenings).joined.filterMap QueueEntry.arrived? = _
    rw [ih, arrived_step, List.append_assoc, List.filterMap_cons]
    cases happening.signal? <;> rfl

theorem prefix_step (r : Ledger) (happening : Happening) :
    r.joined <+: (r.step happening).joined ∧ r.taken <+: (r.step happening).taken := by
  have hstepped := r.stepped happening
  generalize r.step happening = s at hstepped
  cases hstepped with
  | outside not_turn queue board => exact ⟨List.prefix_append _ _, List.prefix_refl _⟩
  | stopped | idle => exact ⟨List.prefix_refl _, List.prefix_refl _⟩
  | take running first loop => exact ⟨List.prefix_append _ _, List.prefix_append _ _⟩

theorem prefix_run (r : Ledger) (happenings : List Happening) :
    r.joined <+: (r.run happenings).joined ∧ r.taken <+: (r.run happenings).taken := by
  refine run_keeps (I := fun s => r.joined <+: s.joined ∧ r.taken <+: s.taken) ?_
    ⟨List.prefix_refl _, List.prefix_refl _⟩ happenings
  intro s happening h
  obtain ⟨hjoined, htaken⟩ := s.prefix_step happening
  exact ⟨h.1.trans hjoined, h.2.trans htaken⟩

theorem taken_step (hordered : r.Ordered) (hacted : r.Acted board) (hboard : board.running = true)
    (hquit : .event .quit ∉ r.taken) (hwaits : r.taken.length < r.joined.length)
    (happening : Happening) : (r.step happening).taken.length =
      r.taken.length + [happening].countP Happening.isTurn := by
  have hstepped := r.stepped happening
  generalize r.step happening = s at hstepped
  cases hstepped with
  | outside not_turn queue board =>
    rw [List.countP_singleton, not_turn]
    rfl
  | stopped not_running =>
    rw [hacted.running, hboard, decide_eq_true hquit] at not_running
    contradiction
  | idle queue =>
    have hlength := congrArg List.length hordered.queue
    rw [queue, List.append_nil, List.length_map] at hlength
    omega
  | take running first loop => exact List.length_append

theorem taken_run (hordered : r.Ordered) (hacted : r.Acted board) (hboard : board.running = true)
    {happenings : List Happening} (hquit : .event .quit ∉ (r.run happenings).taken)
    (hwaits : (r.run happenings).taken.length < r.joined.length) :
    (r.run happenings).taken.length =
      r.taken.length + happenings.countP Happening.isTurn := by
  induction happenings generalizing r with
  | nil => rfl
  | cons happening happenings ih =>
    change .event .quit ∉ ((r.step happening).run happenings).taken at hquit
    change ((r.step happening).run happenings).taken.length < r.joined.length at hwaits
    obtain ⟨hjoined, hnext⟩ := r.prefix_step happening
    have hlater := ((r.step happening).prefix_run happenings).2
    have hnow : .event .quit ∉ r.taken := fun hmem => hquit ((hnext.trans hlater).subset hmem)
    have hkept := Nat.lt_of_lt_of_le hwaits hjoined.length_le
    have hfirst := Nat.lt_of_le_of_lt (hnext.trans hlater).length_le hwaits
    change ((r.step happening).run happenings).taken.length = _
    rw [ih (hordered.step happening) (hacted.step happening) hquit hkept,
      taken_step hordered hacted hboard hnow hfirst, Nat.add_assoc, ← List.countP_append]
    rfl

section
variable {ahead rest : List Signal} (hordered : r.Ordered) (hacted : r.Acted board)
include hordered hacted

/-- Where an event that quits is taken, it is the first that joined and the last that is taken. -/
theorem taken_of_quit (hjoined : r.joined.map QueueEntry.signal = ahead ++ .event .quit :: rest)
    (hahead : .event .quit ∉ ahead) (hquit : .event .quit ∈ r.taken) :
    r.taken = ahead ++ [.event .quit] := by
  have hall : r.taken <+: r.joined.map QueueEntry.signal := ⟨_, hordered.queue.symm⟩
  have hfirst : ahead ++ [.event .quit] <+: r.joined.map QueueEntry.signal :=
    ⟨rest, by rw [hjoined, List.append_assoc]; rfl⟩
  obtain hshort | hlong := List.prefix_or_prefix_of_prefix hall hfirst
  · obtain heq | hbegins := List.prefix_concat_iff.1 hshort
    · exact heq
    · exact absurd (hbegins.subset hquit) hahead
  · obtain hnil | ⟨before, last, htaken⟩ := r.taken.eq_nil_or_concat'
    · rw [hnil] at hquit
      contradiction
    · have hbefore := hacted.last
      rw [htaken, List.dropLast_concat] at hbefore
      rw [htaken] at hlong ⊢
      obtain heq | hbegins := List.prefix_concat_iff.1 hlong
      · exact heq.symm
      · exact absurd (hbegins.subset (List.mem_append_right _ List.mem_cons_self)) hbefore

/-- As many turns as there are signals up to one with no event that quits ahead of it are enough to
take it, whatever else goes on between them. -/
theorem taken_within {signal : Signal}
    (hjoined : r.joined.map QueueEntry.signal = ahead ++ signal :: rest)
    (hahead : .event .quit ∉ ahead) (hboard : board.running = true) {happenings : List Happening}
    (hturns : ahead.length < r.taken.length + happenings.countP Happening.isTurn) :
    ahead ++ [signal] <+: (r.run happenings).taken := by
  have hall : (r.run happenings).taken <+: (r.run happenings).joined.map QueueEntry.signal :=
    ⟨_, (hordered.run happenings).queue.symm⟩
  have hfirst : ahead ++ [signal] <+: r.joined.map QueueEntry.signal :=
    ⟨rest, by rw [hjoined, List.append_assoc]; rfl⟩
  have hkept := hfirst.trans ((r.prefix_run happenings).1.map QueueEntry.signal)
  have hlong : ahead.length < (r.run happenings).taken.length := by
    by_contra hshort
    have hbegins := List.prefix_of_prefix_length_le hall
      ((List.prefix_append _ _).trans hkept) (Nat.le_of_not_lt hshort)
    have hwaits : (r.run happenings).taken.length < r.joined.length := by
      have hlength := hfirst.length_le
      rw [List.length_append, List.length_singleton, List.length_map] at hlength
      omega
    have hquit : .event .quit ∉ (r.run happenings).taken := fun hmem =>
      hahead (hbegins.subset hmem)
    have hlength := taken_run hordered hacted hboard hquit hwaits
    omega
  refine List.prefix_of_prefix_length_le hkept hall ?_
  rw [List.length_append, List.length_singleton]
  exact hlong

end

theorem stopped_run (hstopped : r.watch.loop.board.running = false) (happenings : List Happening) :
    (r.run happenings).taken = r.taken ∧ (r.run happenings).effects = r.effects ∧
      (r.run happenings).watch.loop.frame = r.watch.loop.frame ∧
      (r.run happenings).watch.loop.board = (happenings.filterMap Happening.answer?).foldl
        (fun b answer => b.receive answer.1 answer.2) r.watch.loop.board := by
  induction happenings generalizing r with
  | nil => exact ⟨rfl, rfl, rfl, rfl⟩
  | cons happening happenings ih =>
    cases happening with
    | answer k message =>
      exact ih (r := r.step (.answer k message)) hstopped
    | signal signal => exact ih (r := r.step (.signal signal)) hstopped
    | resize screen => exact ih (r := r.step (.resize screen)) hstopped
    | turn =>
      have hstep : r.step .turn = r := by simp only [step, hstopped]
      have hrun : r.run (.turn :: happenings) = r.run happenings :=
        congrArg (Ledger.run · happenings) hstep
      rw [hrun]
      exact ih hstopped

end Ledger

theorem Key.events_pressed (keys : List Key) : keys.filterMap Key.event? =
    (keys.filter (·.phase != .release)).filterMap Key.event? := by
  induction keys with
  | nil => rfl
  | cons key keys ih =>
    cases hphase : key.phase with
    | release =>
      have hevent : key.event? = none := by simp [Key.event?, hphase]
      rw [List.filterMap_cons_none hevent, List.filter_cons_of_neg (by simp [hphase]), ih]
    | press | again =>
      rw [List.filter_cons_of_pos (by simp [hphase]), List.filterMap_cons, List.filterMap_cons, ih]

open Ledger in
/-- However signals come in between the turns of the loop, what it takes is what has joined the
queue, from the first on: signals from outside in the order in which they came, and what the keys
among those taken ask for in the order in which these were pressed, each once. The events among the
signals taken are those that the board has acted on, and all calls are theirs. Whatever has no event
that quits ahead of it is taken within as many turns as there are signals up to it. The first that
quits is the last that is taken; a board that has stopped only gets what still comes in. -/
theorem signal_order_run (board : Board) (screen : Screen.Area) (queue : List Signal)
    (happenings : List Happening) :
    let r := (Ledger.start board screen queue).run happenings
    let done := r.joined.take r.taken.length
    let waiting := r.joined.drop r.taken.length
    let pressed := (r.taken.filterMap Signal.key?).filter (·.phase != .release)
    r.watch = (Watch.start board screen queue).run happenings ∧
    (r.joined.filterMap QueueEntry.arrived? = queue ++ happenings.filterMap Happening.signal? ∧
      done.map QueueEntry.signal = r.taken ∧
      waiting.map QueueEntry.signal = r.watch.loop.queue) ∧
    (r.handled <+: (r.joined.map QueueEntry.signal).filterMap Signal.event? ∧
      r.watch.loop.board.offline = (board.actAll r.handled).1.offline ∧
      boardCalls r.effects = boardCalls (board.actAll r.handled).2) ∧
    done.filterMap QueueEntry.asked? ++ waiting.filterMap QueueEntry.asked? =
      pressed.filterMap Key.event? ∧
    (∀ ahead signal rest, r.joined.map QueueEntry.signal = ahead ++ signal :: rest →
      .event .quit ∉ ahead → board.running = true → ∀ more,
        ahead.length < r.taken.length + more.countP Happening.isTurn →
          ahead ++ [signal] <+: (r.run more).taken) ∧
    (∀ ahead rest, r.joined.map QueueEntry.signal = ahead ++ .event .quit :: rest →
      .event .quit ∉ ahead → .quit ∈ r.handled → r.taken = ahead ++ [.event .quit]) ∧
    (.quit ∈ r.handled → ∀ more,
      (r.run more).taken = r.taken ∧ (r.run more).effects = r.effects ∧
      (r.run more).watch.loop.frame = r.watch.loop.frame ∧
      (r.run more).watch.loop.board = (more.filterMap Happening.answer?).foldl
        (fun b answer => b.receive answer.1 answer.2) r.watch.loop.board) := by
  intro r done waiting pressed
  have hordered : r.Ordered := (ordered_start board screen queue).run happenings
  have hacted : r.Acted board := (acted_start board screen queue).run happenings
  have hall : r.taken <+: r.joined.map QueueEntry.signal := ⟨_, hordered.queue.symm⟩
  refine ⟨watch_run _ happenings, ⟨?_, ?_, ?_⟩, ⟨hall.filterMap _, hacted.offline, hacted.calls⟩,
    ?_, ?_, ?_, ?_⟩
  · have harrived := arrived_run (start board screen queue) happenings
    have hqueue : (queue.map QueueEntry.arrived).filterMap QueueEntry.arrived? = queue := by
      rw [List.filterMap_map]
      exact List.filterMap_some
    exact harrived.trans (congrArg (· ++ _) hqueue)
  · rw [List.map_take, hordered.queue, List.take_left]
  · rw [List.map_drop, hordered.queue, List.drop_left]
  · rw [← List.filterMap_append, List.take_append_drop, hordered.asked, Key.events_pressed]
  · intro ahead signal rest hjoined hahead hboard more hturns
    exact taken_within hordered hacted hjoined hahead hboard hturns
  · intro ahead rest hjoined hahead hquit
    exact taken_of_quit hordered hacted hjoined hahead (mem_handled.1 hquit)
  · intro hquit more
    refine stopped_run ?_ more
    rw [hacted.running, decide_eq_false (not_not_intro (mem_handled.1 hquit)), Bool.and_false]

/-- A key pressed behind the one that quits is still taken before the board stops. What it asks for
is not. -/
theorem signal_order_quit :
    let board := Board.new Screen.paintBlack "/p"
      [Panel.bare (.new "cpu" "CPU" false) "/cpu" (some "more") ⟨.standard, "/p", .chart⟩]
    let key (c : Char) (phase : KeyPhase) : Signal := .key ⟨.char c, [], phase⟩
    let queue := [key 'j' .press, key 'j' .release, .tick]
    let first : List Happening := [.turn, .signal (.event .toggleSelected), .turn,
      .signal (key 'q' .press), .turn, .signal (key 'k' .press), .turn, .turn, .turn, .turn]
    let later : List Happening := [.signal .tick, .turn, .signal (.event .selectNext), .turn]
    let r := (Ledger.start board ⟨0, 0, 40, 10⟩ queue).run first
    r.handled = [.selectNext, .toggleSelected] ∧
    (r.run later).taken = [key 'j' .press, key 'j' .release, .tick, .event .selectNext,
      .event .toggleSelected, key 'q' .press, key 'k' .press, .event .quit] ∧
    ((r.run later).run [.turn]).taken = (r.run later).taken := by
  intro board key queue first later r
  have hjoined : r.joined.map QueueEntry.signal = [key 'j' .press, key 'j' .release, .tick,
      .event .selectNext, .event .toggleSelected, key 'q' .press, key 'k' .press] ++
      .event .quit :: [.event .selectPrevious] := by decide +kernel
  have hlater : (r.run later).joined.map QueueEntry.signal = [key 'j' .press, key 'j' .release,
      .tick, .event .selectNext, .event .toggleSelected, key 'q' .press, key 'k' .press] ++
      .event .quit :: [.event .selectPrevious, .tick, .event .selectNext] := by decide +kernel
  have hhandled : r.handled = [.selectNext, .toggleSelected] := by decide +kernel
  have hturns : 7 < r.taken.length + later.countP Happening.isTurn := by decide +kernel
  obtain ⟨-, -, -, -, htakes, -⟩ := signal_order_run board ⟨0, 0, 40, 10⟩ queue first
  have hreached := htakes _ _ _ hjoined (by decide) rfl later hturns
  have hdone : .quit ∈ (r.run later).handled :=
    Ledger.mem_handled.2 (hreached.subset (List.mem_append_right _ List.mem_cons_self))
  obtain ⟨-, -, -, -, -, hlast, hstopped⟩ :=
    signal_order_run board ⟨0, 0, 40, 10⟩ queue (first ++ later)
  rw [Ledger.run_append] at hlast hstopped
  exact ⟨hhandled, hlast _ _ hlater (by decide) hdone, (hstopped hdone [.turn]).1⟩

end GraphBoard
