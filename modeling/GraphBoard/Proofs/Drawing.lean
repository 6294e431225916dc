import GraphBoard.Proofs.KeptPictures
import GraphBoard.Proofs.Offline

set_option autoImplicit false

/-!
# Drawing the same board again

A panel is drawn by what it shows, by the picture that is kept for it and by the sign of loading
that is due. Drawing changes what is kept only where it was not up to date, and the step of the sign
only by whole turns. So a board whose panels have names of their own is drawn again as it was drawn
before. What has come in and is not applied is not drawn.
-/
namespace GraphBoard

open GraphBoard.Screen

namespace Panel

def kept (p : Panel) (cache : PictureCache) : PictureCache :=
  match p.visible, p.viewer?, p.shown with
  | true, none, .picture url picture => cache.keep p.id url picture
  | _, _, _ => cache

@[simp] theorem paint_kept (p : Panel) (cache : PictureCache) :
    (p.kept cache).paint = cache.paint := by
  unfold kept
  split
  · exact PictureCache.paint_keep
  · rfl

theorem lookup_kept_of_ne {p : Panel} {id : String} (h : id ≠ p.id) (cache : PictureCache) :
    (p.kept cache).lookup id = cache.lookup id := by
  unfold kept
  split
  · exact PictureCache.lookup_keep_of_ne h
  · rfl

theorem lookup_kept_congr {p : Panel} {cache other : PictureCache}
    (h : cache.lookup p.id = other.lookup p.id) :
    (p.kept cache).lookup p.id = (p.kept other).lookup p.id := by
  unfold kept
  split
  · rw [PictureCache.lookup_keep, PictureCache.lookup_keep, h]
  · exact h

/-- What a panel has in the cache after it is drawn is what it is drawn with again. -/
theorem kept_of_lookup {p : Panel} {cache before : PictureCache}
    (h : cache.lookup p.id = (p.kept before).lookup p.id) : p.kept cache = cache := by
  unfold kept at h ⊢
  split
  · rename_i hvisible hviewer hshown
    simp only [hvisible, hviewer, hshown] at h
    rw [PictureCache.lookup_keep] at h
    exact PictureCache.keep_of_lookup h (PictureCache.url_entry _ _ _)
  · rfl

end Panel

structure Canvas.Alike (p : Panel) (c d : Canvas) : Prop where
  grid : c.grid = d.grid
  spinner : c.spinner % spinnerSigns.length = d.spinner % spinnerSigns.length
  paint : c.cache.paint = d.cache.paint
  kept : (p.kept c.cache).lookup p.id = (p.kept d.cache).lookup p.id

theorem Canvas.drawSpinner_congr {c d : Canvas} (hgrid : c.grid = d.grid)
    (hspinner : c.spinner % spinnerSigns.length = d.spinner % spinnerSigns.length) (a : Area) :
    (c.drawSpinner a).grid = (d.drawSpinner a).grid := by
  simp only [drawSpinner, hgrid, hspinner]

theorem Canvas.spinner_drawSpinner (c : Canvas) (a : Area) :
    (c.drawSpinner a).spinner = c.spinner % spinnerSigns.length := rfl

namespace Panel

variable {p : Panel} {c d : Canvas}

theorem spinner_drawContent (p : Panel) (c : Canvas) (a : Area) :
    (p.drawContent c a).spinner = c.spinner := by
  unfold drawContent
  split
  · rfl
  · rfl
  · split
    · split <;> rfl
    · rfl
    · rfl

theorem cache_drawContent (h : p.visible = true) (c : Canvas) (a : Area) :
    (p.drawContent c a).cache = p.kept c.cache := by
  unfold drawContent kept
  rw [h]
  split
  · rename_i hviewer
    simp only [hviewer]
  · rename_i hviewer
    simp only [hviewer]
  · rename_i hviewer
    split
    · rename_i hshown
      simp only [hviewer, hshown]
      split <;> rfl
    · rename_i hshown
      simp only [hviewer, hshown]
    · rename_i hshown
      simp only [hviewer, hshown]
      rfl

theorem grid_drawContent (hvisible : p.visible = true) (h : c.Alike p d) (a : Area) :
    (p.drawContent c a).grid = (p.drawContent d a).grid := by
  have hkept := h.kept
  unfold drawContent
  split
  · simp only [h.grid]
  · exact h.grid
  · rename_i hviewer
    split
    · split
      · exact h.grid
      · simp only [h.grid]
    · simp only [h.grid]
    · rename_i url picture hshown
      simp only [kept, hvisible, hviewer, hshown, PictureCache.lookup_keep] at hkept
      simp only [PictureCache.draw_eq, h.grid, h.paint, Option.some.inj hkept]

def spins (p : Panel) (a : Area) : Bool :=
  p.visible && p.isLoading && decide (0 < (headerControlsBody a).2.2.inside.height)

theorem draw_of_not_visible (h : p.visible = false) (selected : Bool) (c : Canvas) (a : Area) :
    p.draw selected c a = { c with grid := p.drawHeader selected c.grid a } := by
  simp only [draw, h, Bool.not_false, if_true]

/-- The canvas with everything on it that does not depend on pictures or loading. -/
def framed (p : Panel) (selected : Bool) (c : Canvas) (a : Area) : Canvas :=
  let (header, controls, body) := headerControlsBody a
  { c with
    grid := drawTitledFrame (p.drawControls (p.drawHeader selected c.grid header) controls) body
      (.ofFg .darkGray) (" " ++ p.currentUrl.getD "" ++ " ") }

theorem draw_of_visible (h : p.visible = true) (selected : Bool) (c : Canvas) (a : Area) :
    p.draw selected c a =
      let inner := (headerControlsBody a).2.2.inside
      let content := p.drawContent (p.framed selected c a) inner
      if p.spins a then content.drawSpinner inner else content := by
  simp only [draw, h, spins, Bool.true_and]
  rfl

theorem cache_draw (p : Panel) (selected : Bool) (c : Canvas) (a : Area) :
    (p.draw selected c a).cache = p.kept c.cache := by
  cases h : p.visible with
  | false =>
    rw [draw_of_not_visible h]
    simp only [kept, h]
  | true =>
    have hcontent := cache_drawContent h (p.framed selected c a) (headerControlsBody a).2.2.inside
    rw [draw_of_visible h]
    dsimp only
    split <;> exact hcontent

theorem spinner_draw (p : Panel) (selected : Bool) (c : Canvas) (a : Area) :
    (p.draw selected c a).spinner =
      if p.spins a then c.spinner % spinnerSigns.length else c.spinner := by
  cases h : p.visible with
  | false =>
    rw [draw_of_not_visible h, spins, h]
    rfl
  | true =>
    have hcontent := p.spinner_drawContent (p.framed selected c a) (headerControlsBody a).2.2.inside
    rw [draw_of_visible h]
    dsimp only
    split
    · rw [Canvas.spinner_drawSpinner, hcontent]
      rfl
    · exact hcontent

theorem grid_draw (h : c.Alike p d) (selected : Bool) (a : Area) :
    (p.draw selected c a).grid = (p.draw selected d a).grid := by
  cases hvisible : p.visible with
  | false => rw [draw_of_not_visible hvisible, draw_of_not_visible hvisible, h.grid]
  | true =>
    have hframed : (p.framed selected c a).Alike p (p.framed selected d a) :=
      ⟨by simp only [framed, h.grid], h.spinner, h.paint, h.kept⟩
    have hcontent := grid_drawContent hvisible hframed (headerControlsBody a).2.2.inside
    rw [draw_of_visible hvisible, draw_of_visible hvisible]
    dsimp only
    split
    · refine Canvas.drawSpinner_congr hcontent ?_ _
      rw [spinner_drawContent, spinner_drawContent]
      exact h.spinner
    · exact hcontent

end Panel

attribute [ext] Canvas

namespace Board

section
variable {selected i : Nat} {c d : Canvas} {rows : List (Panel × Area)}

theorem lookup_drawPanels_of_not_mem {id : String} (h : id ∉ rows.map (·.1.id)) (c : Canvas) :
    (drawPanels selected i c rows).cache.lookup id = c.cache.lookup id := by
  induction rows generalizing i c with
  | nil => rfl
  | cons row rows ih =>
    obtain ⟨p, a⟩ := row
    rw [List.map_cons, List.mem_cons, not_or] at h
    rw [drawPanels, ih h.2, Panel.cache_draw, Panel.lookup_kept_of_ne h.1]

theorem paint_drawPanels (c : Canvas) :
    (drawPanels selected i c rows).cache.paint = c.cache.paint := by
  induction rows generalizing i c with
  | nil => rfl
  | cons row rows ih => rw [drawPanels, ih, Panel.cache_draw, Panel.paint_kept]

/-- What a panel has in the cache once all are drawn, it has from its own drawing. -/
theorem lookup_drawPanels (hids : (rows.map (·.1.id)).Nodup) {p : Panel} {a : Area}
    (h : (p, a) ∈ rows) (c : Canvas) :
    (drawPanels selected i c rows).cache.lookup p.id = (p.kept c.cache).lookup p.id := by
  induction rows generalizing i c with
  | nil => contradiction
  | cons row rows ih =>
    obtain ⟨hfirst, hrest⟩ := List.nodup_cons.1 hids
    obtain rfl | hmem := List.mem_cons.1 h
    · rw [drawPanels, lookup_drawPanels_of_not_mem hfirst, Panel.cache_draw]
    · have hne : p.id ≠ row.1.id := fun heq => hfirst (List.mem_map.2 ⟨(p, a), hmem, heq⟩)
      rw [drawPanels, ih hrest hmem, Panel.cache_draw]
      exact Panel.lookup_kept_congr (Panel.lookup_kept_of_ne hne _)

theorem spinner_drawPanels (c : Canvas) : (drawPanels selected i c rows).spinner =
    if rows.any fun row => row.1.spins row.2 then c.spinner % spinnerSigns.length
    else c.spinner := by
  induction rows generalizing i c with
  | nil => rfl
  | cons row rows ih =>
    rw [drawPanels, ih, Panel.spinner_draw, List.any_cons]
    cases row.1.spins row.2 <;> cases rows.any fun row => row.1.spins row.2 <;> simp

/-- Where every panel finds what it would be drawn with, the panels are drawn alike and find it
afterwards. -/
theorem drawPanels_of_kept (hids : (rows.map (·.1.id)).Nodup) (hgrid : c.grid = d.grid)
    (hspinner : c.spinner % spinnerSigns.length = d.spinner % spinnerSigns.length)
    (hpaint : c.cache.paint = d.cache.paint)
    (hkept : ∀ row ∈ rows, d.cache.lookup row.1.id = (row.1.kept c.cache).lookup row.1.id) :
    (drawPanels selected i d rows).grid = (drawPanels selected i c rows).grid ∧
      (drawPanels selected i d rows).cache = d.cache := by
  induction rows generalizing i c d with
  | nil => exact ⟨hgrid.symm, rfl⟩
  | cons row rows ih =>
    obtain ⟨p, a⟩ := row
    obtain ⟨hfirst, hrest⟩ := List.nodup_cons.1 hids
    obtain ⟨hp, hothers⟩ := List.forall_mem_cons.1 hkept
    have hsame : p.kept d.cache = d.cache := Panel.kept_of_lookup hp
    have halike : c.Alike p d := ⟨hgrid, hspinner, hpaint, by rw [hsame, hp]⟩
    have hcache : (p.draw (i == selected) d a).cache = d.cache := by rw [Panel.cache_draw, hsame]
    have hlater : ∀ row ∈ rows, (p.draw (i == selected) d a).cache.lookup row.1.id =
        (row.1.kept (p.draw (i == selected) c a).cache).lookup row.1.id := by
      intro row hrow
      have hne : row.1.id ≠ p.id := fun heq => hfirst (List.mem_map.2 ⟨row, hrow, heq⟩)
      rw [hcache, hothers row hrow, Panel.cache_draw]
      exact (Panel.lookup_kept_congr (Panel.lookup_kept_of_ne hne _)).symm
    have hstep : (p.draw (i == selected) c a).spinner % spinnerSigns.length =
        (p.draw (i == selected) d a).spinner % spinnerSigns.length := by
      rw [Panel.spinner_draw, Panel.spinner_draw]
      split <;> simp only [Nat.mod_mod, hspinner]
    have hpaints : (p.draw (i == selected) c a).cache.paint =
        (p.draw (i == selected) d a).cache.paint := by
      rw [Panel.cache_draw, Panel.cache_draw, Panel.paint_kept, Panel.paint_kept, hpaint]
    obtain ⟨hgrids, hcaches⟩ :=
      ih (i := i + 1) hrest (Panel.grid_draw halike _ a) hstep hpaints hlater
    rw [drawPanels, drawPanels]
    exact ⟨hgrids, hcaches.trans hcache⟩

theorem drawPanels_again (hids : (rows.map (·.1.id)).Nodup) (c : Canvas) :
    drawPanels selected i { drawPanels selected i c rows with grid := c.grid } rows =
      drawPanels selected i c rows := by
  have hspinner : (drawPanels selected i c rows).spinner = _ := spinner_drawPanels c
  have hmod : c.spinner % spinnerSigns.length =
      (drawPanels selected i c rows).spinner % spinnerSigns.length := by
    rw [hspinner]
    split <;> simp only [Nat.mod_mod]
  obtain ⟨hgrid, hcache⟩ := @drawPanels_of_kept selected i c
    { drawPanels selected i c rows with grid := c.grid } rows hids rfl hmod
    (paint_drawPanels c).symm
    fun row hrow => lookup_drawPanels hids hrow c
  refine Canvas.ext hgrid hcache ?_
  rw [spinner_drawPanels]
  split
  · rename_i hany
    rw [hspinner, if_pos hany, Nat.mod_mod]
  · rfl

end

theorem ids_zip_sublist (panels : List Panel) (areas : List Area) :
    ((panels.zip areas).map (·.1.id)).Sublist (panels.map Panel.id) := by
  induction panels generalizing areas with
  | nil => exact List.Sublist.slnil
  | cons p panels ih =>
    cases areas with
    | nil => exact List.nil_sublist _
    | cons a areas => exact (ih areas).cons_cons p.id

def placed (b : Board) (a : Area) : List (Panel × Area) :=
  b.panels.zip (divideRows (titleBodyHelp a).2.1 (b.panels.map Panel.rowSize))

def titled (b : Board) (g : Grid) (a : Area) : Canvas :=
  ⟨(messageBox ("Graphs · " ++ b.page) (Style.ofFg .white).withBold false).draw g
    (titleBodyHelp a).1, b.cache, b.spinner⟩

theorem draw_of_panels {b : Board} (h : b.panels.isEmpty = false) (g : Grid) (a : Area) :
    b.draw g a =
      let c := drawPanels b.selected 0 (b.titled g a) (b.placed a)
      ({ b with cache := c.cache, spinner := c.spinner },
        (helpLine helpText).draw c.grid (titleBodyHelp a).2.2) := by
  simp only [draw, h]
  rfl

theorem draw_of_no_panels {b : Board} (h : b.panels.isEmpty = true) (g : Grid) (a : Area) :
    b.draw g a = (b, (helpLine helpText).draw
      ((emptyMessage "No graphs configured").draw (b.titled g a).grid (titleBodyHelp a).2.1)
      (titleBodyHelp a).2.2) := by
  simp only [draw, h]
  rfl

theorem draw_board (b : Board) (g : Grid) (a : Area) :
    ∃ pictures spinner,
      (b.draw g a).1 = { b with cache := { b.cache with pictures }, spinner } := by
  cases hempty : b.panels.isEmpty with
  | true =>
    rw [draw_of_no_panels hempty]
    exact ⟨_, _, rfl⟩
  | false =>
    let c := drawPanels b.selected 0 (b.titled g a) (b.placed a)
    have hpaint : c.cache.paint = b.cache.paint := paint_drawPanels _
    rw [draw_of_panels hempty]
    refine ⟨c.cache.pictures, c.spinner, ?_⟩
    exact congrArg (fun paint =>
      ({ b with cache := ⟨paint, c.cache.pictures⟩, spinner := c.spinner } : Board)) hpaint

/-- A board that has been drawn is drawn the same way again, and is left as it is. -/
theorem draw_again {b : Board} (hids : (b.panels.map Panel.id).Nodup) (g : Grid) (a : Area) :
    (b.draw g a).1.draw g a = b.draw g a := by
  cases hempty : b.panels.isEmpty with
  | true => rw [draw_of_no_panels hempty, draw_of_no_panels hempty]
  | false =>
    have hrows : ((b.placed a).map (·.1.id)).Nodup := (ids_zip_sublist _ _).nodup hids
    let c := drawPanels b.selected 0 (b.titled g a) (b.placed a)
    have hagain : drawPanels b.selected 0 { c with grid := (b.titled g a).grid } (b.placed a) = c :=
      drawPanels_again hrows _
    have hsecond :=
      draw_of_panels (b := { b with cache := c.cache, spinner := c.spinner }) hempty g a
    rw [draw_of_panels hempty]
    refine hsecond.trans ?_
    exact congrArg (fun c : Canvas => (({ b with cache := c.cache, spinner := c.spinner } : Board),
      (helpLine helpText).draw c.grid (titleBodyHelp a).2.2)) hagain

end Board

theorem Panel.draw_receive (p : Panel) (message : Message) (selected : Bool) (c : Canvas)
    (a : Area) : (p.receive message).draw selected c a = p.draw selected c a := by
  cases message with
  | notice notice => rfl
  | series url outcome =>
    simp only [receive]
    split
    · rename_i feed hcontent
      obtain ⟨⟩ := p
      cases hcontent
      rfl
    · rfl

theorem Panel.rowSize_receive (p : Panel) (message : Message) :
    (p.receive message).rowSize = p.rowSize := by
  have hvisible := congrArg Panel.visible (p.offline_receive message)
  change (p.receive message).visible = p.visible at hvisible
  rw [rowSize, rowSize, hvisible]

namespace Board

theorem drawPanels_modify {f : Panel → Panel}
    (hf : ∀ p selected c a, (f p).draw selected c a = p.draw selected c a) (selected i k : Nat)
    (c : Canvas) (panels : List Panel) (areas : List Area) :
    drawPanels selected i c ((panels.modify k f).zip areas) =
      drawPanels selected i c (panels.zip areas) := by
  induction panels generalizing i k c areas with
  | nil => rw [List.modify_nil]
  | cons p panels ih =>
    cases areas with
    | nil => rw [List.zip_nil_right, List.zip_nil_right]
    | cons a areas =>
      cases k with
      | zero =>
        rw [List.modify_zero_cons, List.zip_cons_cons, List.zip_cons_cons, drawPanels, drawPanels,
          hf]
      | succ k =>
        rw [List.modify_succ_cons, List.zip_cons_cons, List.zip_cons_cons, drawPanels, drawPanels,
          ih]

theorem map_modify {β : Type} {f : Panel → Panel} {g : Panel → β} (hf : ∀ p, g (f p) = g p)
    (k : Nat) (panels : List Panel) : (panels.modify k f).map g = panels.map g := by
  induction panels generalizing k with
  | nil => rw [List.modify_nil]
  | cons p panels ih =>
    cases k with
    | zero => rw [List.modify_zero_cons, List.map_cons, List.map_cons, hf]
    | succ k => rw [List.modify_succ_cons, List.map_cons, List.map_cons, ih]

def frame (b : Board) (a : Area) : Grid := (b.draw (.blank a.right a.bottom) a).2

theorem frame_receive (b : Board) (k : Nat) (message : Message) (a : Area) :
    (b.receive k message).frame a = b.frame a := by
  have hempty : (b.receive k message).panels.isEmpty = b.panels.isEmpty := by
    change (b.panels.modify k _).isEmpty = _
    cases b.panels <;> cases k <;> rfl
  cases hpanels : b.panels.isEmpty with
  | true =>
    rw [hpanels] at hempty
    rw [frame, frame, draw_of_no_panels hpanels, draw_of_no_panels hempty]
    rfl
  | false =>
    rw [hpanels] at hempty
    have hrows : drawPanels b.selected 0 (b.titled (.blank a.right a.bottom) a)
        ((b.receive k message).placed a) =
        drawPanels b.selected 0 (b.titled (.blank a.right a.bottom) a) (b.placed a) := by
      have hsizes : (b.receive k message).panels.map Panel.rowSize = b.panels.map Panel.rowSize :=
        map_modify (Panel.rowSize_receive · message) k b.panels
      rw [placed, placed, hsizes]
      exact drawPanels_modify (Panel.draw_receive · message) _ _ _ _ _ _
    rw [frame, frame, draw_of_panels hpanels, draw_of_panels hempty]
    exact congrArg (fun c : Canvas => (helpLine helpText).draw c.grid (titleBodyHelp a).2.2) hrows

end Board

end GraphBoard
