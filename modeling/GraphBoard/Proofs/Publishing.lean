import GraphBoard.Proofs.Pictures

set_option autoImplicit false

namespace GraphBoard

open GraphBoard.Http

def PublishState.ofOutcome : Except BoardError Unit → PublishState
  | .ok _ => .success
  | .error _ => .alert

def Notice.published? : Notice → Option (Except BoardError Unit)
  | image _ _ => none
  | published outcome => some outcome

def Operation.publishes : Operation → Bool
  | publish => true
  | event .publishSelected => true
  | _ => false

def Fetching (effects : List Effect) : Prop :=
  ∀ call ∈ effects.filterMap Effect.call?, call.isFetch = true

theorem Fetching.append {effects more : List Effect} (h : Fetching effects)
    (hmore : Fetching more) : Fetching (effects ++ more) := by
  intro call hcall
  rw [List.filterMap_append] at hcall
  obtain hcall | hcall := List.mem_append.1 hcall
  · exact h call hcall
  · exact hmore call hcall

theorem fetching_of_remarks {effects : List Effect} (h : Remarks effects) : Fetching effects := by
  intro call hcall
  rw [h.calls] at hcall
  contradiction

theorem Fetching.job {effects : List Effect} (h : Fetching effects) {job : Job}
    (hjob : job ∈ effects.filterMap Effect.job?) : job.call.isFetch = true := by
  obtain ⟨effect, heffect, hstart⟩ := List.mem_filterMap.1 hjob
  refine h job.call (List.mem_filterMap.2 ⟨effect, heffect, ?_⟩)
  cases effect with
  | tell line => contradiction
  | ask call => contradiction
  | start begun =>
    cases hstart
    rfl

theorem Content.isFetch_fetch (container url : String) (kind : ViewerKind) (content : Content) :
    (content.fetch container url kind).isFetch = true := by
  cases content with
  | picture shown pending => rfl
  | plot viewer =>
    cases viewer with
    | none => cases kind <;> rfl
    | some viewer => cases viewer <;> rfl

theorem calls_request (container url : String) (kind : ViewerKind) (content : Content) :
    (content.request container url kind).2.filterMap Effect.call? =
      [content.fetch container url kind] := by
  cases content with
  | picture shown pending => rfl
  | plot viewer =>
    cases viewer with
    | none => cases kind <;> rfl
    | some viewer => cases viewer <;> rfl

namespace Panel
variable (p : Panel)

def publication? (operation : Operation) : Option Publication :=
  if operation.publishes && p.controls.isSome then p.displayedUrl.map p.publication else none

theorem calls_load : p.load.2.filterMap Effect.call? =
    [p.content.fetch p.id p.url p.setting.viewer] :=
  calls_request p.id p.url p.setting.viewer p.content

theorem calls_setUp : p.setUp.2.filterMap Effect.call? =
    [p.content.fetch p.id p.url p.setting.viewer] := by
  have hload := calls_load { p with controls := some .new }
  rw [setUp_eq, List.filterMap_append, hload]
  rfl

theorem fetching_load : Fetching p.load.2 := by
  intro call hcall
  rw [calls_load, List.mem_singleton] at hcall
  rw [hcall]
  exact Content.isFetch_fetch p.id p.url p.setting.viewer p.content

theorem fetching_setUp : Fetching p.setUp.2 := by
  have hload := fetching_load { p with controls := some .new }
  rw [setUp_eq]
  exact hload.append (fetching_of_remarks ⟨[_], rfl⟩)

theorem fetching_openUp : Fetching p.openUp.2 := by
  cases hinit : p.initialized with
  | false =>
    rw [p.openUp_setUp hinit]
    exact p.fetching_setUp
  | true =>
    cases hstale : p.shouldReload with
    | false =>
      rw [p.openUp_fresh hinit hstale]
      exact fetching_of_remarks remarks_nil
    | true =>
      rw [p.openUp_reload hinit hstale]
      exact p.fetching_load

theorem fetching_click : Fetching p.click.2 := by
  unfold click
  split_ifs
  · exact fetching_of_remarks remarks_nil
  · exact fetching_of_remarks remarks_nil
  · exact p.fetching_openUp

theorem fetching_selectRange (range : TimeRange) : Fetching (p.selectRange range).2 :=
  fetching_load { p with range }

theorem fetching_selectSource (index : Nat) : Fetching (p.selectSource index).2 := by
  by_cases h : index < p.sources.length
  · rw [p.selectSource_of_lt h]
    exact fetching_of_remarks remarks_nil
  · rw [p.selectSource_of_not_lt h]
    exact fetching_of_remarks ⟨[_], rfl⟩

theorem fetching_operate {operation : Operation} (h : operation.publishes = false) :
    Fetching (p.operate operation).2 := by
  cases operation with
  | openUp => exact p.fetching_openUp
  | close => exact fetching_of_remarks remarks_nil
  | click => exact p.fetching_click
  | selectRange range => exact p.fetching_selectRange range
  | selectSource index => exact p.fetching_selectSource index
  | publish => contradiction
  | event event =>
    cases event with
    | toggleSelected => exact p.fetching_click
    | selectRange range =>
      simp only [operate, act]
      split_ifs
      · exact p.fetching_selectRange range
      · exact fetching_of_remarks remarks_nil
    | selectSource index => exact p.fetching_selectSource index
    | publishSelected => contradiction
    | selectNext | selectPrevious | quit => exact fetching_of_remarks remarks_nil

theorem operate_publish {operation : Operation} (h : operation.publishes = true) :
    p.operate operation = (p, p.publish) := by
  cases operation with
  | publish => rfl
  | event event => cases event <;> first | rfl | contradiction
  | openUp | close | click | selectRange _ | selectSource _ => contradiction

theorem remarks_publish (h : p.controls = none) : Remarks p.publish := by
  have hpublish :
      p.publish = [.debug (p.logName ++ " has no controls yet, ignoring publish")] := by
    simp [publish, h]
  rw [hpublish]
  exact ⟨[_], rfl⟩

/-- An operation asks for graphs at most, or is a click that begins a probe and nothing else. -/
theorem operate_publishes (operation : Operation) :
    (p.publication? operation = none ∧ Fetching (p.operate operation).2) ∨
      ∃ publication, p.publication? operation = some publication ∧
        p.operate operation = (p, [.start (.probe publication)]) := by
  cases hclick : operation.publishes with
  | false => exact .inl ⟨by simp [publication?, hclick], p.fetching_operate hclick⟩
  | true =>
    rw [p.operate_publish hclick]
    cases hcontrols : p.controls with
    | none =>
      have hremarks := p.remarks_publish hcontrols
      exact .inl ⟨by simp [publication?, hcontrols], fetching_of_remarks hremarks⟩
    | some controls =>
      cases hurl : p.displayedUrl with
      | none =>
        have hpublish : p.publish = [.warn (p.logName ++ " has nothing displayed to publish")] := by
          simp [publish, hcontrols, hurl]
        refine .inl ⟨by simp [publication?, hurl], ?_⟩
        rw [hpublish]
        exact fetching_of_remarks ⟨[_], rfl⟩
      | some url =>
        refine .inr ⟨p.publication url, by simp [publication?, hclick, hcontrols, hurl], ?_⟩
        simp [publish, hcontrols, hurl]

theorem publication?_eq_some {operation : Operation} {publication : Publication}
    (h : p.publication? operation = some publication) :
    ∃ url, p.controls.isSome ∧ publication = p.publication url := by
  unfold publication? at h
  split_ifs at h with hclick
  obtain ⟨url, -, rfl⟩ := Option.map_eq_some_iff.1 h
  exact ⟨url, (Bool.and_eq_true_iff.1 hclick).2, rfl⟩

/-- A panel has controls just when it is set up, and has asked for a graph by then. -/
structure Equipped : Prop where
  initialized : p.initialized = p.controls.isSome
  currentUrl : p.controls.isSome → p.currentUrl.isSome

variable {p}

theorem Equipped.displayed (h : p.Equipped) (hcontrols : p.controls.isSome) :
    ∃ url, p.displayedUrl = some url := by
  obtain ⟨current, hcurrent⟩ := Option.isSome_iff_exists.1 (h.currentUrl hcontrols)
  rw [displayedUrl, hcurrent]
  cases p.viewer?.map Viewer.url with
  | none => exact ⟨current, rfl⟩
  | some url => exact ⟨url, rfl⟩

theorem Equipped.of_offline {q : Panel} (hoffline : q.offline = p.offline) (h : p.Equipped) :
    q.Equipped := by
  have hcontrols := controls_of_offline hoffline
  refine ⟨?_, fun hsome => ?_⟩
  · rw [initialized_of_offline hoffline, hcontrols]
    exact h.initialized
  · rw [currentUrl_of_offline hoffline]
    exact h.currentUrl (hcontrols ▸ hsome)

theorem equipped_setUp (p : Panel) : p.setUp.1.Equipped := ⟨rfl, fun _ => rfl⟩

theorem Equipped.operate (h : p.Equipped) (operation : Operation) :
    (p.operate operation).1.Equipped := by
  have houtcome := p.operate_outcome operation
  generalize p.operate operation = done at houtcome
  have hload : ∀ range, ({ p with range } : Panel).load.1.Equipped := by
    intro range
    refine ⟨?_, fun _ => rfl⟩
    change p.initialized = (p.controls.map (·.select range)).isSome
    rw [Option.isSome_map]
    exact h.initialized
  cases houtcome with
  | remark lines => exact h
  | probe url controls displayed => exact h
  | close => exact ⟨h.initialized, h.currentUrl⟩
  | choose index index_lt => exact ⟨h.initialized, h.currentUrl⟩
  | reveal initialized fresh => exact ⟨h.initialized, h.currentUrl⟩
  | reload initialized stale => exact ⟨(hload p.range).initialized, (hload p.range).currentUrl⟩
  | setUp initialized => exact ⟨p.equipped_setUp.initialized, p.equipped_setUp.currentUrl⟩
  | range range => exact hload range

def publishState (p : Panel) : Option PublishState := p.controls.map Controls.publish

theorem Equipped.operate_publishState (h : p.Equipped) (operation : Operation) :
    (p.operate operation).1.publishState = p.publishState ∨
      (p.controls = none ∧ (p.operate operation).1.publishState = some .idle) := by
  have houtcome := p.operate_outcome operation
  generalize p.operate operation = done at houtcome
  have hload : ∀ range, ({ p with range } : Panel).load.1.publishState = p.publishState := by
    intro range
    change (p.controls.map (·.select range)).map Controls.publish = p.controls.map Controls.publish
    rw [Option.map_map]
    rfl
  cases houtcome with
  | remark lines | probe url controls displayed => exact .inl rfl
  | close | choose index index_lt | reveal initialized fresh => exact .inl rfl
  | reload initialized stale => exact .inl (hload p.range)
  | setUp initialized =>
    rw [h.initialized] at initialized
    exact .inr ⟨by simpa using initialized, rfl⟩
  | range range => exact .inl (hload range)

theorem Equipped.operate_controls (h : p.Equipped) (operation : Operation)
    (hnone : (p.operate operation).1.controls = none) : p.controls = none := by
  have hstate : (p.operate operation).1.publishState = none := by
    rw [publishState, hnone, Option.map_none]
  obtain hsame | ⟨hbare, -⟩ := h.operate_publishState operation
  · rw [hsame] at hstate
    exact Option.map_eq_none_iff.1 hstate
  · exact hbare

theorem publishState_receive (p : Panel) (message : Message) :
    (p.receive message).publishState = p.publishState := by
  cases message with
  | notice notice => rfl
  | series url outcome =>
    simp only [receive]
    split <;> rfl

theorem publishState_apply (p : Panel) (notice : Notice) :
    (p.apply notice).1.publishState =
      p.publishState.map ((notice.published?.map PublishState.ofOutcome).getD ·) := by
  cases notice with
  | image url outcome =>
    have hkept : ∀ shown, (p.showPicture shown).publishState = p.publishState := by
      intro shown
      simp only [showPicture]
      split <;> rfl
    simp only [Notice.published?, Option.map_none, Option.getD_none, Option.map_id']
    cases outcome <;> exact hkept _
  | published outcome =>
    cases outcome <;> simp [apply, setPublish, publishState, Notice.published?,
      PublishState.ofOutcome, Function.comp_def]

theorem publishState_applyAll (p : Panel) (notices : List Notice) :
    (p.applyAll notices).1.publishState = p.publishState.map
      (((notices.filterMap Notice.published?).getLast?.map PublishState.ofOutcome).getD ·) := by
  induction notices generalizing p with
  | nil => simp [applyAll]
  | cons notice notices ih =>
    change ((p.apply notice).1.applyAll notices).1.publishState = _
    rw [ih, publishState_apply, Option.map_map]
    congr 1
    funext state
    cases hnotice : notice.published? with
    | none => simp [hnotice]
    | some outcome =>
      simp only [Function.comp_apply, Option.map_some, Option.getD_some, List.filterMap_cons,
        hnotice, List.getLast?_cons]
      cases (notices.filterMap Notice.published?).getLast? <;> rfl

theorem publishState_poll (p : Panel) : p.poll.1.publishState = p.publishState.map
    (((p.inbox.filterMap Notice.published?).getLast?.map PublishState.ofOutcome).getD ·) := by
  have happlied := publishState_applyAll { p with inbox := [] } p.inbox
  change ((({ p with inbox := [] } : Panel).applyAll p.inbox).1.pollViewer).1.publishState = _
  simp only [pollViewer]
  split <;> exact happlied

end Panel

end GraphBoard
