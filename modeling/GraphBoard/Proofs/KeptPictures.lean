import GraphBoard.Board.Draw
import Mathlib.Data.List.Induction

set_option autoImplicit false

namespace GraphBoard

open GraphBoard.Screen

namespace PictureCache

/-- What a panel has in the cache once a picture is drawn, by what it had before. -/
def entry (before : Option CachedPicture) (url : String) (picture : Picture) : CachedPicture :=
  (before.filter (·.url == url)).getD ⟨url, picture⟩

theorem entry_some (cached : CachedPicture) (url : String) (picture : Picture) :
    entry (some cached) url picture = if cached.url = url then cached else ⟨url, picture⟩ := by
  by_cases h : cached.url = url <;> simp [entry, Option.filter, h]

theorem url_entry (before : Option CachedPicture) (url : String) (picture : Picture) :
    (entry before url picture).url = url := by
  cases before with
  | none => rfl
  | some cached =>
    rw [entry_some]
    split
    · assumption
    · rfl

variable {cache : PictureCache} {id url : String} {picture : Picture}

theorem lookup_filter_of_ne {other : String} (h : other ≠ id)
    (pictures : List (String × CachedPicture)) :
    (pictures.filter (·.1 != id)).lookup other = pictures.lookup other := by
  induction pictures with
  | nil => rfl
  | cons kept pictures ih =>
    by_cases hid : kept.1 = id
    · have hne : (other == kept.1) = false := by simp [hid, h]
      rw [List.filter_cons_of_neg (by simp [hid]), ih, List.lookup_cons, hne]
    · rw [List.filter_cons_of_pos (by simp [hid]), List.lookup_cons, List.lookup_cons, ih]

theorem lookup_keep : (keep cache id url picture).lookup id =
    some (entry (cache.lookup id) url picture) := by
  unfold keep
  split
  · rename_i cached hcached
    rw [hcached, entry_some]
    by_cases hurl : cached.url = url
    · rw [if_pos (beq_iff_eq.2 hurl), if_pos hurl, hcached]
    · rw [if_neg (by simp [hurl]), if_neg hurl, lookup, List.lookup_cons_self]
  · rename_i hnone
    rw [hnone, lookup, List.lookup_cons_self]
    rfl

theorem lookup_keep_of_ne {other : String} (h : other ≠ id) :
    (keep cache id url picture).lookup other = cache.lookup other := by
  have hne : (other == id) = false := beq_false_of_ne h
  unfold keep
  split
  · split
    · rfl
    · rw [lookup, List.lookup_cons, hne, lookup_filter_of_ne h, lookup]
  · rw [lookup, List.lookup_cons, hne, lookup]

@[simp] theorem paint_keep : (keep cache id url picture).paint = cache.paint := by
  unfold keep
  split
  · split <;> rfl
  · rfl

theorem keep_of_lookup {cached : CachedPicture} (h : cache.lookup id = some cached)
    (hurl : cached.url = url) : keep cache id url picture = cache := by
  simp [keep, h, hurl]

theorem draw_eq (g : Grid) (a : Area) : draw cache id url picture g a =
    (keep cache id url picture,
      cache.paint (entry (cache.lookup id) url picture).picture g a) := by
  simp only [draw, lookup_keep, Option.map_some, Option.getD_some, paint_keep]

end PictureCache

structure Drawing where
  id : String
  url : String
  picture : Picture
  grid : Grid
  area : Area

namespace Drawing

def on (d : Drawing) (cache : PictureCache) : PictureCache × Grid :=
  cache.draw d.id d.url d.picture d.grid d.area

def cacheAfter (paint : Painter) (ds : List Drawing) : PictureCache :=
  ds.foldl (fun cache d => (d.on cache).1) (.new paint)

/-- The drawings of a panel since it was drawn at another address than `url`, the last first. -/
def stretch (ds : List Drawing) (id url : String) : List Drawing :=
  (ds.filter (·.id == id)).reverse.takeWhile (·.url == url)

theorem stretch_concat_of_ne {ds : List Drawing} {d : Drawing} {id : String} (h : d.id ≠ id)
    (url : String) : stretch (ds ++ [d]) id url = stretch ds id url := by
  simp [stretch, h]

theorem stretch_concat (ds : List Drawing) (d : Drawing) (url : String) :
    stretch (ds ++ [d]) d.id url = if d.url = url then d :: stretch ds d.id url else [] := by
  by_cases h : d.url = url <;> simp [stretch, h]

theorem cacheAfter_concat (paint : Painter) (ds : List Drawing) (d : Drawing) :
    cacheAfter paint (ds ++ [d]) = (cacheAfter paint ds).keep d.id d.url d.picture := by
  rw [cacheAfter, List.foldl_append]
  rfl

theorem paint_cacheAfter (paint : Painter) (ds : List Drawing) :
    (cacheAfter paint ds).paint = paint := by
  induction ds using List.reverseRecOn with
  | nil => rfl
  | append_singleton ds d ih => rw [cacheAfter_concat, PictureCache.paint_keep, ih]

def firstPicture (ds : List Drawing) (picture : Picture) : Picture :=
  (ds.getLast?.map Drawing.picture).getD picture

theorem firstPicture_cons (d : Drawing) (ds : List Drawing) (picture : Picture) :
    firstPicture (d :: ds) picture = firstPicture ds d.picture := by
  rw [firstPicture, List.getLast?_cons, firstPicture]
  cases ds.getLast? <;> rfl

theorem entry_cacheAfter (paint : Painter) (ds : List Drawing) (id url : String)
    (picture : Picture) : PictureCache.entry ((cacheAfter paint ds).lookup id) url picture =
      ⟨url, firstPicture (stretch ds id url) picture⟩ := by
  induction ds using List.reverseRecOn generalizing url picture with
  | nil => rfl
  | append_singleton ds d ih =>
    rw [cacheAfter_concat]
    by_cases hid : d.id = id
    · subst hid
      rw [PictureCache.lookup_keep, ih, PictureCache.entry_some, stretch_concat]
      split
      · rename_i hurl
        obtain rfl : d.url = url := hurl
        rw [firstPicture_cons]
      · rfl
    · rw [PictureCache.lookup_keep_of_ne (Ne.symm hid), ih, stretch_concat_of_ne hid]

theorem firstPicture_of_forall {ds : List Drawing} {picture : Picture}
    (h : ∀ d ∈ ds, d.picture = picture) : firstPicture ds picture = picture := by
  unfold firstPicture
  cases hlast : ds.getLast? with
  | none => rfl
  | some d => exact h d (List.mem_of_getLast? hlast)

end Drawing

/-- What is drawn for a panel is the first picture since it was drawn at another address: the one at
hand, as from an empty cache, if none before it was different. Other panels keep what they have. -/
theorem drawn_picture (paint : Painter) (ds : List Drawing) (d : Drawing) :
    (d.on (Drawing.cacheAfter paint ds)).2 =
        paint (Drawing.firstPicture (Drawing.stretch ds d.id d.url) d.picture) d.grid d.area ∧
      ((∀ e ∈ Drawing.stretch ds d.id d.url, e.picture = d.picture) →
        (d.on (Drawing.cacheAfter paint ds)).2 = (d.on (.new paint)).2) ∧
      ∀ other, other ≠ d.id →
        (d.on (Drawing.cacheAfter paint ds)).1.lookup other =
          (Drawing.cacheAfter paint ds).lookup other := by
  have hdrawn : (d.on (Drawing.cacheAfter paint ds)).2 =
      paint (Drawing.firstPicture (Drawing.stretch ds d.id d.url) d.picture) d.grid d.area := by
    rw [Drawing.on, PictureCache.draw_eq, Drawing.entry_cacheAfter, Drawing.paint_cacheAfter]
  refine ⟨hdrawn, fun hsame => ?_, fun other hother => PictureCache.lookup_keep_of_ne hother⟩
  rw [hdrawn, Drawing.firstPicture_of_forall hsame, Drawing.on, PictureCache.draw_eq]
  rfl

/-- The picture at hand is smaller than the one drawn before it at the same address, and what is
drawn is not. -/
theorem outdated_picture : ¬ ∀ (paint : Painter) (ds : List Drawing) (d : Drawing),
    (d.on (Drawing.cacheAfter paint ds)).2 = (d.on (.new paint)).2 := by
  intro h
  let area : Area := ⟨0, 0, 2, 1⟩
  have hdrawn := h paintBlack [⟨"cpu", "/render", .black 16 16, .blank 2 1, area⟩]
    ⟨"cpu", "/render", .black 8 16, .blank 2 1, area⟩
  revert hdrawn
  decide

end GraphBoard
