import GraphBoard.Http.Client
import GraphBoard.Proofs.Handshakes

set_option autoImplicit false

namespace GraphBoard

open GraphBoard.Http

namespace Http

def IsWeb (address : Url.Address) : Prop :=
  address.scheme = "http".toList ∨ address.scheme = "https".toList

def Response.Fails (response : Response) : Prop := 400 ≤ response.status ∧ response.status < 600

instance (response : Response) : Decidable response.Fails := inferInstanceAs (Decidable (_ ∧ _))

theorem Response.check_eq (response : Response) : response.check =
    if response.Fails then .error (.http (.status response.status)) else .ok response := rfl

namespace Client

/-- The server that a panel has in a client whose requests are answered by `serve`. -/
def server (client : Client) (serve : Request → Response) : Server where
  get url := (client.call serve .get url []).2.map Response.body
  head url := (client.call serve .head url []).2.map Response.headers
  post url form := (client.call serve .post url form).2.map fun _ => ()

/-- A request goes out for a call, and an answer comes back that is no failure. -/
def Accepts (client : Client) (serve : Request → Response) (method : Method) (url : String)
    (form : Form) (response : Response) : Prop :=
  ∃ address, client.resolve url = .ok address ∧ IsWeb address ∧
    serve (.of method address form) = response ∧ ¬ response.Fails

variable {client : Client} {serve : Request → Response} {method : Method} {url : String}
  {form : Form} {address : Url.Address} {e : BoardError}

theorem call_of_web (hresolve : client.resolve url = .ok address) (hweb : IsWeb address) :
    client.call serve method url form = (some (.of method address form),
      (serve (.of method address form)).check) := by
  have hscheme : (address.scheme == "http".toList || address.scheme == "https".toList) = true := by
    simpa [IsWeb] using hweb
  simp only [call, hresolve, hscheme, if_true]

theorem call_of_not_web (hresolve : client.resolve url = .ok address) (hweb : ¬ IsWeb address) :
    client.call serve method url form = (none, .error (.http .scheme)) := by
  have hscheme :
      ¬ (address.scheme == "http".toList || address.scheme == "https".toList) = true := by
    simpa [IsWeb] using hweb
  simp only [call, hresolve, if_neg hscheme]

theorem call_of_error (hresolve : client.resolve url = .error e) :
    client.call serve method url form = (none, .error e) := by
  simp only [call, hresolve]

theorem call_eq_ok_iff {response : Response} :
    (client.call serve method url form).2 = .ok response ↔
      client.Accepts serve method url form response := by
  constructor
  · intro h
    cases hresolve : client.resolve url with
    | error e =>
      rw [call_of_error hresolve] at h
      contradiction
    | ok address =>
      by_cases hweb : IsWeb address
      · rw [call_of_web hresolve hweb, Response.check_eq] at h
        split at h
        · contradiction
        · rename_i hstatus
          cases h
          exact ⟨address, hresolve, hweb, rfl, hstatus⟩
      · rw [call_of_not_web hresolve hweb] at h
        contradiction
  · rintro ⟨address, hresolve, hweb, rfl, hstatus⟩
    rw [call_of_web hresolve hweb, Response.check_eq, if_neg hstatus]

theorem map_eq_ok_iff {α β : Type} {f : α → β} {result : Except BoardError α} {b : β} :
    result.map f = .ok b ↔ ∃ a, result = .ok a ∧ f a = b := by
  cases result with
  | error e => simp [Except.map]
  | ok a => simp [Except.map]

theorem resolve_error (h : client.resolve url = .error e) : ∃ reason, e = .invalidUrl reason := by
  unfold resolve at h
  split at h
  · contradiction
  · split at h
    · cases h
      exact ⟨_, rfl⟩
    · rename_i base _
      cases hjoin : Url.join base url with
      | ok address =>
        rw [hjoin] at h
        contradiction
      | error e =>
        rw [hjoin] at h
        cases h
        exact ⟨_, rfl⟩
  · cases h
    exact ⟨_, rfl⟩

theorem head_eq_ok_iff {headers : Headers} : (client.server serve).head url = .ok headers ↔
    ∃ response, client.Accepts serve .head url [] response ∧ response.headers = headers := by
  change (client.call serve .head url []).2.map Response.headers = .ok headers ↔ _
  simp only [map_eq_ok_iff, call_eq_ok_iff]

theorem post_eq_ok_iff : (client.server serve).post url form = .ok () ↔
    ∃ response, client.Accepts serve .post url form response := by
  change (client.call serve .post url form).2.map (fun _ => ()) = .ok () ↔ _
  simp only [map_eq_ok_iff, call_eq_ok_iff, and_true]

end Client

end Http

theorem Job.advance_probe_error {server : Server} {publication : Publication} {e : BoardError}
    (h : server.head publication.probe = .error e) :
    ∃ lines, (probe publication).advance server = .done lines none := by
  simp only [advance, failed, h]
  exact ⟨_, rfl⟩

namespace Reply

theorem eq_of_registration {r : Reply} {post : Ticket} (h : r.registration? = some post) :
    ∃ publication headers name, r.ticket.job = .probe publication ∧
      r.server.head publication.probe = .ok headers ∧
      headers.text? publication.header = some name ∧
      post = ⟨r.ticket.number, .register publication name⟩ := by
  unfold registration? at h
  split at h
  · rename_i publication hprobe
    split at h
    · rename_i headers hhead
      obtain ⟨name, hname, rfl⟩ := Option.map_eq_some_iff.1 h
      exact ⟨publication, headers, name, hprobe, hhead, hname, rfl⟩
    · contradiction
  · contradiction

theorem server_of_delivery {r : Reply} {d : Delivery} (h : r.delivery? = some d) :
    d.server = r.server := by
  unfold delivery? at h
  split at h
  · obtain ⟨message, -, rfl⟩ := Option.map_eq_some_iff.1 h
    rfl
  · contradiction

end Reply

namespace Session

theorem server_of_reply {s : Session} {moves : List Move} {r : Reply} (h : r ∈ s.replies moves) :
    ∃ place, Move.answer place r.server ∈ moves := by
  induction moves generalizing s with
  | nil => contradiction
  | cons move moves ih =>
    obtain hnow | hlater := List.mem_append.1 h
    · cases move with
      | operate operation => contradiction
      | poll => contradiction
      | answer place server =>
        rw [repliesTo, Option.mem_toList, Option.map_eq_some_iff] at hnow
        obtain ⟨ticket, -, rfl⟩ := hnow
        exact ⟨place, List.mem_cons_self⟩
    · obtain ⟨place, hmem⟩ := ih hlater
      exact ⟨place, List.mem_cons_of_mem _ hmem⟩

def AnsweredBy (client : Client) (moves : List Move) : Prop :=
  ∀ place server, Move.answer place server ∈ moves → ∃ serve, server = client.server serve

section
variable {client : Client} {s : Session} {moves : List Move}

theorem AnsweredBy.server (h : AnsweredBy client moves) {r : Reply} (hr : r ∈ s.replies moves) :
    ∃ serve, r.server = client.server serve := by
  obtain ⟨place, hmem⟩ := server_of_reply hr
  exact h place r.server hmem

theorem step_probe_refused (s : Session) {place : Nat} {ticket : Ticket} {publication : Publication}
    {serve : Request → Response} (at_place : s.waiting[place]? = some ticket)
    (hprobe : ticket.job = .probe publication)
    (hrefused : ∀ response, ¬ client.Accepts serve .head publication.probe [] response) :
    s.step (.answer place (client.server serve)) =
      { s with waiting := s.waiting.eraseIdx place } := by
  cases hhead : (client.server serve).head publication.probe with
  | ok headers =>
    obtain ⟨response, haccepts, -⟩ := Client.head_eq_ok_iff.1 hhead
    exact absurd haccepts (hrefused response)
  | error e =>
    obtain ⟨lines, hdone⟩ := Job.advance_probe_error hhead
    rw [← hprobe] at hdone
    simp only [Session.step, Session.answer, at_place, settle, hdone]

theorem History.posted (h : (s.run moves).History (s.replies moves))
    (hclient : AnsweredBy client moves) {call : Call}
    (hcall : call ∈ (s.run moves).calls.filter Call.isPost) :
    ∃ r ∈ s.replies moves, ∃ publication serve response name,
      r.ticket.job = .probe publication ∧
      client.Accepts serve .head publication.probe [] response ∧
      Headers.text? response.headers publication.header = some name ∧
      call = .post publication.endpoint (Job.form publication name) := by
  rw [h.posts] at hcall
  obtain ⟨post, hpost, rfl⟩ := List.mem_map.1 hcall
  obtain ⟨r, hr, honward⟩ := List.mem_filterMap.1 hpost
  rw [Reply.onward?_eq_registration?] at honward
  obtain ⟨publication, headers, name, hprobe, hhead, hname, rfl⟩ :=
    Reply.eq_of_registration honward
  obtain ⟨serve, hserve⟩ := hclient.server hr
  rw [hserve] at hhead
  obtain ⟨response, haccepts, rfl⟩ := Client.head_eq_ok_iff.1 hhead
  exact ⟨r, hr, publication, serve, response, name, hprobe, haccepts, hname, rfl⟩

theorem History.registered (h : (s.run moves).History (s.replies moves))
    (hclient : AnsweredBy client moves) {d : Delivery}
    (hd : d ∈ (s.run moves).applied ++ (s.run moves).queued) (hok : d.outcome? = some (.ok ())) :
    ∃ publication name serve response, d.ticket.job = .register publication name ∧
      client.Accepts serve .post publication.endpoint (Job.form publication name) response := by
  rw [h.deliveries] at hd
  obtain ⟨r, hr, hdelivery⟩ := List.mem_filterMap.1 hd
  obtain ⟨publication, name, hregister, houtcome⟩ := Reply.outcome_of_delivery hdelivery hok
  obtain ⟨serve, hserve⟩ := hclient.server hr
  rw [Reply.server_of_delivery hdelivery, hserve] at houtcome
  obtain ⟨response, haccepts⟩ := Client.post_eq_ok_iff.1 houtcome.symm
  exact ⟨publication, name, serve, response, hregister, haccepts⟩

end

end Session

theorem PublishState.after_eq_success {outcomes : List (Except BoardError Unit)} :
    after outcomes = .success ↔ outcomes.getLast? = some (.ok ()) := by
  cases hlast : outcomes.getLast? with
  | none => simp [after, hlast]
  | some outcome => cases outcome <;> simp [after, hlast, ofOutcome]

/-- A call fails for a status of the 400s or 500s, or for an address that cannot be asked, and for
nothing else. What failed is not published. -/
theorem failures_reported (client : Client) :
    -- A call to an address of the web sends one request, and its answer decides.
    (∀ serve url address, client.resolve url = .ok address → IsWeb address →
      (∀ method form, (client.call serve method url form).1 = some (.of method address form)) ∧
      (let response := serve (.of .get address []);
        (client.server serve).get url =
          if response.Fails then .error (.http (.status response.status))
          else .ok response.body) ∧
      (let response := serve (.of .head address []);
        (client.server serve).head url =
          if response.Fails then .error (.http (.status response.status))
          else .ok response.headers) ∧
      ∀ form, let response := serve (.of .post address form);
        (client.server serve).post url form =
          if response.Fails then .error (.http (.status response.status)) else .ok ()) ∧
    -- A text that stands for no address is refused, and nothing is sent.
    (∀ url e, client.resolve url = .error e → (∃ reason, e = .invalidUrl reason) ∧ ∀ serve,
      (∀ method form, (client.call serve method url form).1 = none) ∧
      (client.server serve).get url = .error e ∧ (client.server serve).head url = .error e ∧
      ∀ form, (client.server serve).post url form = .error e) ∧
    -- Panels register what a probe was accepted for, and tell a success when that was accepted too.
    (∀ c sources handle setting made, Panel.new c sources handle setting = .ok made →
      ∀ moves, Session.AnsweredBy client moves →
        let s := Session.start made
        let t := s.run moves
        (∀ place ticket publication serve, t.waiting[place]? = some ticket →
          ticket.job = .probe publication →
          (∀ response, ¬ client.Accepts serve .head publication.probe [] response) →
            t.step (.answer place (client.server serve)) =
              { t with waiting := t.waiting.eraseIdx place }) ∧
        (∀ call ∈ t.calls.filter Call.isPost, ∃ r ∈ s.replies moves,
          ∃ publication serve response name, r.ticket.job = .probe publication ∧
            client.Accepts serve .head publication.probe [] response ∧
            Headers.text? response.headers publication.header = some name ∧
            call = .post publication.endpoint (Job.form publication name)) ∧
        (∀ d ∈ t.applied ++ t.queued, d.outcome? = some (.ok ()) →
          ∃ publication name serve response, d.ticket.job = .register publication name ∧
            client.Accepts serve .post publication.endpoint (Job.form publication name) response) ∧
        ∀ controls, t.panel.controls = some controls →
          (controls.publish = .success ↔ t.outcomes.getLast? = some (.ok ()))) := by
  refine ⟨fun serve url address hresolve hweb => ?_, fun url e hresolve => ?_,
    fun c sources handle setting made hnew moves hclient => ?_⟩
  · have hcall : ∀ method form, client.call serve method url form = _ :=
      fun method form => Client.call_of_web hresolve hweb
    refine ⟨fun method form => by rw [hcall], ?_, ?_, fun form => ?_⟩
    all_goals
      simp only [Client.server, hcall, Response.check_eq]
      split <;> rfl
  · have hcall : ∀ serve method form, client.call serve method url form = _ :=
      fun serve method form => Client.call_of_error hresolve
    refine ⟨Client.resolve_error hresolve, fun serve => ⟨fun method form => by rw [hcall], ?_, ?_,
      fun form => ?_⟩⟩
    all_goals
      simp only [Client.server, hcall]
      rfl
  · have h := (Session.Handshakes.start hnew).run moves
    rw [List.nil_append, List.nil_append] at h
    refine ⟨fun place ticket publication serve at_place hprobe hrefused =>
        Session.step_probe_refused _ at_place hprobe hrefused,
      fun call hcall => h.history.posted hclient hcall,
      fun d hd hok => h.history.registered hclient hd hok, fun controls hcontrols => ?_⟩
    have hbutton : controls.publish = .after _ :=
      h.button _ (by rw [Panel.publishState, hcontrols]; rfl)
    rw [hbutton, PublishState.after_eq_success]

theorem failures_reported_gateway :
    let base : Url.Address := ⟨"http".toList, [], none, some (.ipv6 [0, 0, 0, 0, 0, 0, 0, 1]), none,
      .rooted [[]], none, none⟩
    let client : Client := ⟨some base⟩
    let serve : Request → Response := fun _ => ⟨502, [], .ofText "Bad Gateway"⟩
    (∃ address, client.resolve "/render?target=cpu" = .ok address ∧ IsWeb address) ∧
      (client.server serve).get "/render?target=cpu" = .error (.http (.status 502)) ∧
      (client.server serve).head "http://[::1" = .error (.invalidUrl
        "http://[::1: invalid IPv6 address") := by
  intro base client serve
  have hresolve : client.resolve "/render?target=cpu" =
      .ok { base with path := .rooted ["render".toList], query := some "target=cpu".toList } := rfl
  have hbad : client.resolve "http://[::1" = .error (.invalidUrl
      "http://[::1: invalid IPv6 address") := rfl
  obtain ⟨hsent, hrefused, -⟩ := failures_reported client
  obtain ⟨-, hget, -, -⟩ := hsent serve _ _ hresolve (.inl rfl)
  obtain ⟨-, hunsent⟩ := hrefused _ _ hbad
  exact ⟨⟨_, hresolve, .inl rfl⟩, hget, (hunsent serve).2.2.1⟩

/-- A page that has not been modified is taken for an answer: its name is registered, and the button
tells a success when the dashboard has not been modified either. -/
theorem not_modified_accepted :
    (¬ ∀ (client : Client) (serve : Request → Response) (url : String) (address : Url.Address),
      client.resolve url = .ok address → IsWeb address →
        let response := serve (.of .head address []);
        response.status ∉ [301, 302, 303, 307, 308] →
          ((∃ headers, (client.server serve).head url = .ok headers) ↔
            200 ≤ response.status ∧ response.status < 300)) ∧
    let base : Url.Address := ⟨"http".toList, [], none, some (.ipv6 [0, 0, 0, 0, 0, 0, 0, 1]), none,
      .rooted [[]], none, none⟩
    let server := Client.server ⟨some base⟩ fun _ =>
      ⟨304, [("x-where-am-i", "http://g/cpu")], .data []⟩
    let made := Panel.make (.new "cpu" "CPU" false) "/render" none ⟨.standard, "/page", .chart⟩
    let t := (Session.start made).run
      [.operate .publish, .answer 1 server, .answer 1 server, .poll]
    t.calls.filter Call.isPost = [.post "/navlets/add-graph-widget/"
        [("url", "http://g/cpu"), ("target", "/page")]] ∧
      t.panel.controls = some ⟨some .day, .success⟩ := by
  let base : Url.Address := ⟨"http".toList, [], none, some (.ipv6 [0, 0, 0, 0, 0, 0, 0, 1]), none,
    .rooted [[]], none, none⟩
  refine ⟨fun h => ?_, ?_⟩
  · have hresolve : Client.resolve ⟨some base⟩ "/render" =
        .ok { base with path := .rooted ["render".toList] } := rfl
    have hstatus := h ⟨some base⟩ (fun _ => ⟨304, [], .data []⟩) "/render" _ hresolve (.inl rfl)
      (by decide)
    exact absurd (hstatus.1 ⟨[], rfl⟩) (by decide)
  · decide

end GraphBoard
