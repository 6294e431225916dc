import GraphBoard.Proofs.Session
import Mathlib.Tactic.SplitIfs

set_option autoImplicit false

namespace GraphBoard
namespace Viewer

def after (viewer : Option Viewer) (container url : String) (kind : ViewerKind) : Viewer :=
  match viewer with
  | some viewer => (viewer.pointAt url).1
  | none => (Viewer.new container url kind).1

@[simp] theorem url_pointAt (url : String) (viewer : Viewer) :
    (viewer.pointAt url).1.url = url := by
  cases viewer <;> rfl

@[simp] theorem url_new (container url : String) (kind : ViewerKind) :
    (Viewer.new container url kind).1.url = url := by
  cases kind <;> rfl

@[simp] theorem url_after (viewer : Option Viewer) (container url : String) (kind : ViewerKind) :
    (after viewer container url kind).url = url := by
  cases viewer
  · exact url_new container url kind
  · exact url_pointAt url _

end Viewer

namespace Content

theorem request_picture (container url : String) (kind : ViewerKind) (shown : Shown)
    (pending : Nat) : (picture shown pending).request container url kind =
      (picture shown (pending + 1), [.start (.image url)]) := rfl

theorem request_plot (container url : String) (kind : ViewerKind) (viewer : Option Viewer) :
    ((plot viewer).request container url kind).1 =
      plot (some (Viewer.after viewer container url kind)) := by
  cases viewer <;> rfl

end Content

namespace Panel
variable (p : Panel)

@[simp] theorem load_active : p.load.1.active = p.active := rfl
@[simp] theorem load_range : p.load.1.range = p.range := rfl
@[simp] theorem load_lastIndex : p.load.1.lastIndex = some p.active := rfl
@[simp] theorem load_lastRange : p.load.1.lastRange = some p.range := rfl
@[simp] theorem load_currentUrl : p.load.1.currentUrl = some p.url := rfl

@[simp] theorem load_content :
    p.load.1.content = (p.content.request p.id p.url p.setting.viewer).1 := rfl

theorem load_effects : p.load.2 = .debug (p.logName ++ " loading " ++ p.url) ::
    (p.content.request p.id p.url p.setting.viewer).2 := rfl

@[simp] theorem load_shouldReload : p.load.1.shouldReload = false := by
  simp [shouldReload]

theorem setUp_eq : p.setUp = ({ ({ p with controls := some .new } : Panel).load.1 with
    initialized := true }, ({ p with controls := some .new } : Panel).load.2 ++
      [.info (p.logName ++ " initialized")]) := rfl

/-- The first load leaves nothing for a second one to do. -/
theorem setUp_reload : p.setUp.1.reload = (p.setUp.1, []) := by
  have hfresh : p.setUp.1.shouldReload = false :=
    load_shouldReload { p with controls := some .new }
  simp [reload, hfresh]

def opened : Panel :=
  { p with
    visible := true
    expanded := true
    handle := p.handle.map ({ · with isOpen := true }) }

theorem openUp_eq : p.openUp =
    let first := if p.initialized then (p, []) else p.setUp
    (first.1.reload.1.opened, first.2 ++ first.1.reload.2) := rfl

theorem openUp_setUp (h : p.initialized = false) :
    p.openUp = (p.setUp.1.opened, p.setUp.2) := by
  have hfirst : (if p.initialized then (p, []) else p.setUp) = p.setUp := if_neg (by simp [h])
  rw [openUp_eq, hfirst]
  simp only [setUp_reload, List.append_nil]

theorem openUp_initialized (h : p.initialized = true) :
    p.openUp = (p.reload.1.opened, p.reload.2) := by
  rw [openUp_eq, if_pos h]
  rfl

theorem openUp_reload (h : p.initialized = true) (hstale : p.shouldReload = true) :
    p.openUp = (p.load.1.opened, p.load.2) := by
  rw [p.openUp_initialized h, reload, if_pos hstale]

theorem openUp_fresh (h : p.initialized = true) (hfresh : p.shouldReload = false) :
    p.openUp = (p.opened, []) := by
  rw [p.openUp_initialized h, reload, if_neg (by simp [hfresh])]

theorem selectSource_of_lt {index : Nat} (h : index < p.sources.length) :
    p.selectSource index = ({ p with active := index, active_lt := h }, []) := dif_pos h

theorem selectSource_of_not_lt {index : Nat} (h : ¬index < p.sources.length) :
    p.selectSource index = (p, [.debug (p.logName ++ " ignoring source index " ++ Nat.repr index ++
      " (" ++ Nat.repr p.sources.length ++ " sources)")]) := dif_neg h

inductive Outcome : Panel × List Effect → Prop where
  /-- Nothing but log lines, if any. -/
  | remark (lines : List Log.Line) : Outcome (p, lines.map .tell)
  | probe (url : String) (controls : p.controls.isSome) (displayed : p.displayedUrl = some url) :
      Outcome (p, [.start (.probe (p.publication url))])
  | close : Outcome (p.close, [])
  | choose (index : Nat) (index_lt : index < p.sources.length) :
      Outcome ({ p with active := index, active_lt := index_lt }, [])
  | reveal (initialized : p.initialized = true) (fresh : p.shouldReload = false) :
      Outcome (p.opened, [])
  | reload (initialized : p.initialized = true) (stale : p.shouldReload = true) :
      Outcome (p.load.1.opened, p.load.2)
  | setUp (initialized : p.initialized = false) : Outcome (p.setUp.1.opened, p.setUp.2)
  | range (range : TimeRange) : Outcome ({ p with range } : Panel).load

theorem outcome_nothing : p.Outcome (p, []) := .remark []

theorem outcome_openUp : p.Outcome p.openUp := by
  cases hinit : p.initialized with
  | false =>
    rw [p.openUp_setUp hinit]
    exact .setUp hinit
  | true =>
    cases hstale : p.shouldReload with
    | false =>
      rw [p.openUp_fresh hinit hstale]
      exact .reveal hinit hstale
    | true =>
      rw [p.openUp_reload hinit hstale]
      exact .reload hinit hstale

theorem outcome_click : p.Outcome p.click := by
  unfold click
  split_ifs
  · exact p.outcome_nothing
  · exact .close
  · exact p.outcome_openUp

theorem outcome_selectSource (index : Nat) : p.Outcome (p.selectSource index) := by
  by_cases h : index < p.sources.length
  · rw [p.selectSource_of_lt h]
    exact .choose index h
  · rw [p.selectSource_of_not_lt h]
    exact .remark [_]

theorem outcome_publish : p.Outcome (p, p.publish) := by
  unfold publish
  split_ifs with h
  · exact .remark [_]
  · cases hurl : p.displayedUrl with
    | none => exact .remark [_]
    | some url => exact .probe url (by cases hc : p.controls <;> simp_all) hurl

theorem outcome_act (event : Event) : p.Outcome (p.act event) := by
  cases event with
  | toggleSelected => exact p.outcome_click
  | selectRange range =>
    unfold act
    split_ifs
    · exact .range range
    · exact p.outcome_nothing
  | selectSource index => exact p.outcome_selectSource index
  | publishSelected => exact p.outcome_publish
  | selectNext | selectPrevious | quit => exact p.outcome_nothing

theorem operate_outcome (operation : Operation) : p.Outcome (p.operate operation) := by
  cases operation with
  | openUp => exact p.outcome_openUp
  | close => exact .close
  | click => exact p.outcome_click
  | selectRange range => exact .range range
  | selectSource index => exact p.outcome_selectSource index
  | publish => exact p.outcome_publish
  | event event => exact p.outcome_act event

theorem new_ok {c : Container} {sources : String} {handle : Option String} {setting : Setting}
    {made : Panel × List Effect} (h : Panel.new c sources handle setting = .ok made) :
    ∃ line, (handle = none ∧ made = ((bare c sources handle setting).setUp.1,
        .tell line :: (bare c sources handle setting).setUp.2)) ∨
      (handle.isSome ∧ made = (bare c sources handle setting, [.tell line])) := by
  unfold Panel.new at h
  split_ifs at h with hattached hblank
  injection h with h
  subst h
  cases handle with
  | none => exact ⟨_, .inl ⟨rfl, rfl⟩⟩
  | some id => exact ⟨_, .inr ⟨rfl, rfl⟩⟩

theorem operate_id (operation : Operation) : (p.operate operation).1.id = p.id := by
  have h := p.operate_outcome operation
  generalize p.operate operation = done at h
  cases h <;> rfl

theorem operate_setting (operation : Operation) :
    (p.operate operation).1.setting = p.setting := by
  have h := p.operate_outcome operation
  generalize p.operate operation = done at h
  cases h <;> rfl

end Panel

end GraphBoard
