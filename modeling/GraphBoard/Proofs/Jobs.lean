import GraphBoard.Work.Job

set_option autoImplicit false

namespace GraphBoard
namespace Job

open GraphBoard.Http

variable (server : Server)

theorem advance_image (url : String) : ∃ lines, (image url).advance server =
    .done lines (some (.notice (.image url (pictureOf (server.get url))))) := by
  simp only [advance]
  split
  · rename_i picture hpicture
    exact ⟨[], by rw [hpicture]⟩
  · rename_i e hpicture
    exact ⟨_, by rw [hpicture]; rfl⟩

theorem advance_series (url : String) : ∃ lines, (series url).advance server =
    .done lines (some (.series url (seriesOf (server.get (seriesUrl url))))) := by
  simp only [advance]
  split
  · rename_i found hfound
    exact ⟨[], by rw [hfound]⟩
  · rename_i e hfound
    exact ⟨_, by rw [hfound]; rfl⟩

theorem advance_register (publication : Publication) (name : String) :
    ∃ lines, (register publication name).advance server =
      .done lines (some (.notice (.published
        (server.post publication.endpoint (form publication name))))) := by
  simp only [advance]
  split
  · rename_i done hpost
    exact ⟨_, by rw [hpost]⟩
  · rename_i e hpost
    exact ⟨_, by rw [hpost]; rfl⟩

/-- A probe tells nothing itself: it ends silently or goes on to register the name it found. -/
theorem advance_probe (publication : Publication) :
    (∃ lines, (probe publication).advance server = .done lines none) ∨
      ∃ name, (probe publication).advance server = .next (register publication name) := by
  simp only [advance]
  split
  · exact .inl ⟨_, rfl⟩
  · split
    · rename_i name _
      exact .inr ⟨name, rfl⟩
    · exact .inl ⟨_, rfl⟩

variable {server}

theorem eq_of_next {job next : Job} (h : job.advance server = .next next) :
    ∃ publication name, job = probe publication ∧ next = register publication name := by
  cases job with
  | image url =>
    obtain ⟨lines, hdone⟩ := advance_image server url
    rw [hdone] at h
    contradiction
  | series url =>
    obtain ⟨lines, hdone⟩ := advance_series server url
    rw [hdone] at h
    contradiction
  | register publication name =>
    obtain ⟨lines, hdone⟩ := advance_register server publication name
    rw [hdone] at h
    contradiction
  | probe publication =>
    obtain ⟨lines, hdone⟩ | ⟨name, hnext⟩ := advance_probe server publication
    · rw [hdone] at h
      contradiction
    · rw [hnext] at h
      injection h with h
      exact ⟨publication, name, rfl, h.symm⟩

def isImage : Job → Bool
  | image _ => true
  | series _ => false
  | probe _ => false
  | register _ _ => false

theorem eq_image {job : Job} (h : job.isImage = true) : ∃ url, job = image url := by
  cases job with
  | image url => exact ⟨url, rfl⟩
  | series url => cases h
  | probe publication => cases h
  | register publication name => cases h

end Job

def Message.isImage : Message → Bool
  | notice (.image _ _) => true
  | notice (.published _) => false
  | series _ _ => false

namespace Job

open GraphBoard.Http

variable {server : Server} {job : Job} {lines : List Log.Line}

theorem isImage_of_message {message : Message}
    (h : job.advance server = .done lines (some message)) : message.isImage = job.isImage := by
  cases job with
  | image url =>
    obtain ⟨_, hdone⟩ := advance_image server url
    rw [hdone] at h
    cases h
    rfl
  | series url =>
    obtain ⟨_, hdone⟩ := advance_series server url
    rw [hdone] at h
    cases h
    rfl
  | register publication name =>
    obtain ⟨_, hdone⟩ := advance_register server publication name
    rw [hdone] at h
    cases h
    rfl
  | probe publication =>
    obtain ⟨_, hdone⟩ | ⟨_, hnext⟩ := advance_probe server publication
    · rw [hdone] at h
      cases h
    · rw [hnext] at h
      cases h

theorem not_isImage_of_silent (h : job.advance server = .done lines none) :
    job.isImage = false := by
  cases job with
  | image url =>
    obtain ⟨_, hdone⟩ := advance_image server url
    rw [hdone] at h
    cases h
  | series url => rfl
  | register publication name => rfl
  | probe publication => rfl

end Job

end GraphBoard
