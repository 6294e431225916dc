import GraphBoard.Proofs.Fetches

set_option autoImplicit false

namespace GraphBoard

def Shown.ofOutcome (url : String) : Except BoardError Picture → Shown
  | .ok found => .picture url found
  | .error _ => .error Panel.loadErrorText

def Notice.shown? : Notice → Option Shown
  | image url outcome => some (Shown.ofOutcome url outcome)
  | published _ => none

namespace Panel

def pending (p : Panel) : Nat :=
  match p.content with
  | .picture _ pending => pending
  | .plot _ => 0

variable (p : Panel)

@[simp] theorem inbox_apply (notice : Notice) : (p.apply notice).1.inbox = p.inbox := by
  cases notice with
  | image url outcome =>
    cases hcontent : p.content <;> cases outcome <;> simp [apply, showPicture, hcontent]
  | published outcome => cases outcome <;> rfl

theorem inbox_applyAll (notices : List Notice) : (p.applyAll notices).1.inbox = p.inbox := by
  induction notices generalizing p with
  | nil => rfl
  | cons notice notices ih =>
    change ((p.apply notice).1.applyAll notices).1.inbox = p.inbox
    rw [ih, inbox_apply]

variable {p} {shown : Shown} {pending : Nat}

theorem content_apply_image (h : p.content = .picture shown pending) (url : String)
    (outcome : Except BoardError Picture) : (p.apply (.image url outcome)).1.content =
      .picture (.ofOutcome url outcome) (pending - 1) := by
  cases outcome <;> simp [apply, showPicture, h, Shown.ofOutcome]

theorem content_apply_published (outcome : Except BoardError Unit) :
    (p.apply (.published outcome)).1.content = p.content := by
  cases outcome <;> rfl

theorem content_applyAll (h : p.content = .picture shown pending) (notices : List Notice) :
    (p.applyAll notices).1.content =
      .picture ((notices.filterMap Notice.shown?).getLast?.getD shown)
        (pending - (notices.filterMap Notice.shown?).length) := by
  induction notices generalizing p shown pending with
  | nil => exact h
  | cons notice notices ih =>
    change ((p.apply notice).1.applyAll notices).1.content = _
    cases notice with
    | image url outcome =>
      rw [ih (content_apply_image h url outcome)]
      simp only [Notice.shown?, List.filterMap_cons, List.getLast?_cons, Option.getD_some,
        List.length_cons]
      congr 1
      omega
    | published outcome =>
      rw [ih ((content_apply_published outcome).trans h)]
      rfl

theorem poll_picture (h : p.content = .picture shown pending) :
    p.poll.1 = (({ p with inbox := [] } : Panel).applyAll p.inbox).1 := by
  have hcontent := content_applyAll (p := { p with inbox := [] }) h p.inbox
  change ((({ p with inbox := [] } : Panel).applyAll p.inbox).1.pollViewer).1 = _
  simp only [pollViewer, hcontent]

theorem receive_picture (h : p.content = .picture shown pending) (message : Message) :
    (p.receive message).content = .picture shown pending := by
  cases message with
  | notice notice => exact h
  | series url outcome => simp only [receive, h]

end Panel

def imageJobs (effects : List Effect) : List Job :=
  (effects.filterMap Effect.job?).filter Job.isImage

theorem imageJobs_append (effects more : List Effect) :
    imageJobs (effects ++ more) = imageJobs effects ++ imageJobs more := by
  simp [imageJobs]

theorem imageJobs_remark (lines : List Log.Line) : imageJobs (lines.map .tell) = [] := by
  rw [imageJobs, Remarks.jobs ⟨lines, rfl⟩, List.filter_nil]

/-- A panel counts the pictures that an operation asks for, and asks for no graph in another way. -/
structure Panel.Counts (p : Panel) (done : Panel × List Effect) : Prop where
  content : ∀ {shown pending}, p.content = .picture shown pending →
    done.1.content = .picture shown (pending + (imageJobs done.2).length)
  inbox : done.1.inbox = p.inbox
  calls : fetches done.2 = (imageJobs done.2).map Job.call

namespace Panel
variable {p : Panel} {shown : Shown} {pending : Nat}

theorem counts_quiet {done : Panel × List Effect} (hcontent : done.1.content = p.content)
    (hinbox : done.1.inbox = p.inbox) (hjobs : imageJobs done.2 = [])
    (hcalls : fetches done.2 = []) : p.Counts done where
  content h := by rw [hcontent, h, hjobs, List.length_nil, Nat.add_zero]
  inbox := hinbox
  calls := by rw [hcalls, hjobs, List.map_nil]

theorem counts_load (h : p.content = .picture shown pending) : p.Counts p.load := by
  have hjobs : imageJobs p.load.2 = [.image p.url] := by
    rw [load_effects, h]
    rfl
  refine ⟨fun h' => ?_, rfl, ?_⟩
  · rw [hjobs, load_content, h', Content.request_picture]
    rfl
  · rw [hjobs, load_effects, h]
    rfl

theorem counts_setUp (h : p.content = .picture shown pending) : p.Counts p.setUp := by
  have hload := counts_load (p := { p with controls := some .new }) h
  have hjobs : imageJobs p.setUp.2 =
      imageJobs ({ p with controls := some .new } : Panel).load.2 := by
    rw [setUp_eq, imageJobs_append]
    exact List.append_nil _
  have hcalls : fetches p.setUp.2 = fetches ({ p with controls := some .new } : Panel).load.2 := by
    rw [setUp_eq, fetches_append]
    exact List.append_nil _
  refine ⟨fun h' => ?_, hload.inbox, ?_⟩
  · rw [hjobs]
    exact hload.content h'
  · rw [hcalls, hjobs]
    exact hload.calls

theorem Counts.opened {done : Panel × List Effect} (h : p.Counts done) :
    p.Counts (done.1.opened, done.2) := ⟨h.content, h.inbox, h.calls⟩

theorem operate_counts (h : p.content = .picture shown pending) (operation : Operation) :
    p.Counts (p.operate operation) := by
  have houtcome := p.operate_outcome operation
  generalize p.operate operation = done at houtcome
  cases houtcome with
  | remark lines => exact counts_quiet rfl rfl (imageJobs_remark lines) (fetches_remark lines)
  | probe url controls displayed => exact counts_quiet rfl rfl rfl rfl
  | close => exact counts_quiet rfl rfl rfl rfl
  | choose index index_lt => exact counts_quiet rfl rfl rfl rfl
  | reveal initialized fresh => exact counts_quiet rfl rfl rfl rfl
  | reload initialized stale => exact (counts_load h).opened
  | setUp initialized => exact (counts_setUp h).opened
  | range range =>
    have hload := counts_load (p := { p with range }) h
    exact ⟨hload.content, hload.inbox, hload.calls⟩

end Panel

def Message.notice? : Message → Option Notice
  | notice told => some told
  | series _ _ => none

theorem Panel.inbox_receive (p : Panel) (message : Message) :
    (p.receive message).inbox = p.inbox ++ message.notice?.toList := by
  cases message with
  | notice notice => rfl
  | series url outcome =>
    simp only [receive, Message.notice?, Option.toList_none, List.append_nil]
    split <;> rfl

end GraphBoard
