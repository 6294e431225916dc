import GraphBoard.Proofs.Freshness
import GraphBoard.Proofs.Handshakes
import GraphBoard.Proofs.PictureAccounts

set_option autoImplicit false

namespace GraphBoard

open GraphBoard.Http

def Call.imageJob? : Call → Option Job
  | get url => some (.image url)
  | _ => none

theorem map_imageJob?_tickets (tickets : List Ticket) (h : ∀ ticket ∈ tickets, ticket.job.isImage) :
    (tickets.map (·.job.call)).map Call.imageJob? = tickets.map (some ·.job) := by
  rw [List.map_map]
  refine List.map_congr_left fun ticket hticket => ?_
  obtain ⟨url, hjob⟩ := Job.eq_image (h ticket hticket)
  simp only [Function.comp_apply, hjob, Job.call, Call.imageJob?]

namespace Session

theorem Asking.currentUrl_issued {c : Container} {setting : Setting} {s : Session}
    {urls : List String} (hasking : s.Asking c setting urls) (haccounts : s.Accounts)
    (hpicture : c.hasPlot = false) :
    s.panel.currentUrl.map Job.image = s.issued.getLast?.map Ticket.job := by
  have hcalls : s.issued.map (·.job.call) = urls.map .get := by
    rw [← haccounts.calls, hasking.calls]
    cases urls <;> simp [fetchTrace, hpicture]
  have hjobs : s.issued.map (some ·.job) = urls.map (some <| Job.image ·) := by
    rw [← map_imageJob?_tickets s.issued fun ticket hticket => (List.mem_filter.1 hticket).2,
      hcalls, List.map_map]
    rfl
  have hlast := congrArg List.getLast? hjobs
  rw [List.getLast?_map, List.getLast?_map, ← hasking.currentUrl] at hlast
  cases hissued : s.issued.getLast? with
  | none =>
    rw [hissued, Option.map_none] at hlast
    rw [Option.map_eq_none_iff.1 hlast.symm, Option.map_none, Option.map_none]
  | some ticket =>
    rw [hissued, Option.map_some] at hlast
    obtain ⟨url, hurl, hjob⟩ := Option.map_eq_some_iff.1 hlast.symm
    rw [hurl, Option.map_some, Option.map_some]
    exact hjob

theorem Accounts.shown_last {s : Session} (h : s.Accounts) {url : String} {picture : Picture}
    (hshown : s.panel.shown = .picture url picture) :
    s.drained.getLast?.map (·.ticket.job) = some (.image url) := by
  simp only [Panel.shown, h.content, List.getLast?_map] at hshown
  cases hlast : s.drained.getLast? with
  | none =>
    rw [hlast] at hshown
    contradiction
  | some d =>
    obtain ⟨asked, hjob, houtcome⟩ := h.shown_drained (List.mem_of_getLast? hlast)
    rw [hlast, Option.map_some, Option.getD_some, houtcome] at hshown
    cases hpicture : Job.pictureOf (d.server.get asked) with
    | error e =>
      rw [hpicture] at hshown
      contradiction
    | ok found =>
      rw [hpicture] at hshown
      cases hshown
      rw [Option.map_some, hjob]

end Session

/-- What is published is the picture asked for last. It is the one in view just when this one was
asked for at the same address, as when pictures come in in the order they were asked for. -/
theorem displayed_picture_run {c : Container} {sources : String} {handle : Option String}
    {setting : Setting} {made : Panel × List Effect}
    (hnew : Panel.new c sources handle setting = .ok made) (hpicture : c.hasPlot = false)
    (moves : List Move) :
    let s := (Session.start made).run moves
    let p := s.panel
    p.displayedUrl.map Job.image = s.issued.getLast?.map Ticket.job ∧
      (∀ operation, operation.publishes = true → p.controls.isSome →
        ∃ url, p.displayedUrl = some url ∧
          (s.step (.operate operation)).calls = s.calls ++ [.head (Job.plainUrl url)]) ∧
      ∀ url picture, p.shown = .picture url picture →
        (p.displayedUrl = some url ↔
          s.drained.getLast?.map (·.ticket.job) = s.issued.getLast?.map Ticket.job) ∧
        (s.drained.map Delivery.ticket = s.issued → p.displayedUrl = some url) := by
  intro s p
  have hasking := (Session.Asking.start hnew).run moves
  have haccounts : s.Accounts := (Session.Accounts.start hnew hpicture).run moves
  have hhandshakes := (Session.Handshakes.start hnew).run moves
  have hrecorded := Session.recorded_run (Session.recorded_start hnew) moves
  have hdisplayed : p.displayedUrl.map Job.image = s.issued.getLast?.map Ticket.job := by
    rw [hrecorded.displayedUrl]
    exact hasking.currentUrl_issued haccounts hpicture
  refine ⟨hdisplayed, fun operation hclick hcontrols => ?_, fun url picture hshown => ?_⟩
  · obtain ⟨url, hurl, -, hstep⟩ := hhandshakes.clicked.click_controls hclick hcontrols
    exact ⟨url, hurl, congrArg Session.calls hstep⟩
  · have hlast := haccounts.shown_last hshown
    have hiff : p.displayedUrl = some url ↔
        s.drained.getLast?.map (·.ticket.job) = s.issued.getLast?.map Ticket.job := by
      rw [hlast, ← hdisplayed]
      cases p.displayedUrl with
      | none => simp
      | some latest => simp [eq_comm]
    refine ⟨hiff, fun horder => hiff.2 ?_⟩
    rw [← horder, List.getLast?_map, Option.map_map]
    rfl

/-- The first picture comes in after the second one and stays in view, and none is awaited. -/
theorem displayed_overtaken : ¬ ∀ (c : Container) (sources : String) (handle : Option String)
    (setting : Setting) (made : Panel × List Effect),
    Panel.new c sources handle setting = .ok made → c.hasPlot = false →
      ∀ (moves : List Move) (url : String) (picture : Picture),
        let p := ((Session.start made).run moves).panel
        p.isLoading = false → p.shown = .picture url picture → p.displayedUrl = some url := by
  intro h
  let c := Container.new "octets" "Octets" false
  let setting : Setting := ⟨.standard, "/", .chart⟩
  let server : Server :=
    ⟨fun _ => .ok (.picture (.black 4 3)), fun _ => .error .image, fun _ _ => .ok ()⟩
  have hurl := h c "a" none setting (Panel.make c "a" none setting) rfl rfl
    [.operate (.selectRange .week), .answer 1 server, .answer 0 server, .poll]
    "a?timeframe=day" (.black 4 3) (by decide) (by decide)
  exact absurd hurl (by decide)

theorem displayed_in_order :
    let c := Container.new "octets" "Octets" false
    let setting : Setting := ⟨.standard, "/", .chart⟩
    let made := Panel.make c "a" none setting
    let server : Server :=
      ⟨fun _ => .ok (.picture (.black 4 3)), fun _ => .error .image, fun _ _ => .ok ()⟩
    let s := (Session.start made).run
      [.operate (.selectRange .week), .answer 0 server, .answer 0 server, .poll]
    Panel.new c "a" none setting = .ok made ∧ c.hasPlot = false ∧
      s.panel.shown = .picture "a?timeframe=week" (.black 4 3) ∧
      s.panel.displayedUrl = some "a?timeframe=week" := by
  intro c setting made server s
  have hnew : Panel.new c "a" none setting = .ok made := rfl
  have hshown : s.panel.shown = .picture "a?timeframe=week" (.black 4 3) := by decide
  have hrun := (displayed_picture_run hnew rfl _).2.2 "a?timeframe=week" (.black 4 3) hshown
  exact ⟨hnew, rfl, hshown, hrun.2 (by decide)⟩

end GraphBoard
