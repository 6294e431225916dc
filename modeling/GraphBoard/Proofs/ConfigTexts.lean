import GraphBoard.Config.Read
import GraphBoard.Proofs.YamlTexts
import Mathlib.Data.List.Forall2

set_option autoImplicit false

/-!
# Texts of configurations

A configuration is written as a mapping on one line, its texts between double quotes. What there
is none of is left out, and a field that has its default may be left out or written. Reading gives
the configuration back, in whatever order the fields stand.
-/
namespace GraphBoard

open GraphBoard.Yaml

def quoted (s : String) : Node := .scalar bare false s.toList

/-- The ways to write a field: not at all, where it may lack, or once. -/
inductive Field (name : String) (mayLack : Prop) (IsValue : Node → Prop) :
    List (String × Node) → Prop where
  | absent : mayLack → Field name mayLack IsValue []
  | written {node : Node} : IsValue node → Field name mayLack IsValue [(name, node)]

def OptionField (name : String) (text : Option String) : List (String × Node) → Prop :=
  Field name (text = none) fun node => ∃ s ∈ text, node = quoted s

def HasKey (field : String × Node) (entry : Node × Node) : Prop :=
  ∃ plain, entry = (.scalar bare plain field.1.toList, field.2)

/-- A mapping with these fields, the keys with or without quotes. -/
inductive IsMapping (fields : List (String × Node)) : Node → Prop where
  | mapping {entries : List (Node × Node)} :
      List.Forall₂ HasKey fields entries → IsMapping fields (.mapping bare entries)

inductive IsDashboard (dashboard : Dashboard) : Node → Prop where
  | fields {endpoint header fields : List (String × Node)} {node : Node} :
      Field "add_graph_widget_url" (dashboard.endpoint = Dashboard.standard.endpoint)
        (· = quoted dashboard.endpoint) endpoint →
      Field "canonical_url_header" (dashboard.header = Dashboard.standard.header)
        (· = quoted dashboard.header) header →
      fields.Perm (endpoint ++ header) → IsMapping fields node → IsDashboard dashboard node

inductive IsGraph (graph : Graph) : Node → Prop where
  | fields {id title sources handle display fields : List (String × Node)} {node : Node} :
      Field "id" False (· = quoted graph.id) id →
      OptionField "title" graph.title title →
      Field "urls" False (· = quoted graph.sources) sources →
      OptionField "handler_id" graph.handle handle →
      Field "display" (graph.display = .image)
        (fun node => ∃ plain, node = .scalar bare plain graph.display.name.toList) display →
      fields.Perm (id ++ (title ++ (sources ++ (handle ++ display)))) →
      IsMapping fields node → IsGraph graph node

inductive IsConfig (config : Config) : Node → Prop where
  | fields {base page dashboard graphs fields : List (String × Node)} {node : Node} :
      OptionField "base_url" config.base base →
      Field "page_target" (config.page = "") (· = quoted config.page) page →
      Field "dashboard" (config.dashboard = .standard) (IsDashboard config.dashboard) dashboard →
      Field "graphs" False
        (fun node => ∃ items, List.Forall₂ IsGraph config.graphs items ∧
          node = .sequence bare items) graphs →
      fields.Perm (base ++ (page ++ (dashboard ++ graphs))) →
      IsMapping fields node → IsConfig config node

def ConfigText (config : Config) (text : List Char) : Prop :=
  ∃ node before inner after, IsConfig config node ∧ Written node inner ∧ IsSpace before ∧
    IsSpace after ∧ text = before ++ (inner ++ after)

namespace Config

section Reading

variable {α : Type} {root node : Node} {name : String} {mayLack : Prop} {IsValue : Node → Prop}
  {own fields : List (String × Node)}

theorem fields?_mapping (h : IsMapping fields node) : fields? root node = some fields := by
  obtain ⟨hentries⟩ := h
  change List.mapM _ _ = _
  induction hentries with
  | nil => rfl
  | cons hkey _ ih =>
    obtain ⟨plain, rfl⟩ := hkey
    rw [List.mapM_cons, ih]
    simp [text?, Node.follow]

theorem filter_field (h : Field name mayLack IsValue own) (other : String) :
    own.filter (·.1 == other) = if name = other then own else [] := by
  cases h with
  | absent => simp
  | written => simp [List.filter_cons]

/-- A field is read as what was written, and as its default if it was left out. -/
theorem fieldD?_field (h : Field name mayLack IsValue own) {all : List (String × Node)}
    (hperm : fields.Perm all) (hown : all.filter (·.1 == name) = own) {absent : Option α}
    {read? : Node → Option α} {a : α} (habsent : mayLack → absent = some a)
    (hread : ∀ node, IsValue node → read? node = some a) :
    fieldD? fields name absent read? = some a := by
  have hfilter := hperm.filter (·.1 == name)
  rw [hown] at hfilter
  cases h with
  | absent hlack =>
    rw [List.perm_nil] at hfilter
    simp [fieldD?, field?, hfilter, habsent hlack]
  | written hvalue =>
    rw [List.perm_singleton] at hfilter
    simp [fieldD?, field?, hfilter, hread _ hvalue]

theorem text?_quoted (s : String) : text? root (quoted s) = some s := by
  simp [text?, quoted, Node.follow]

theorem optionalText?_quoted (s : String) : optionalText? root (quoted s) = some (some s) := by
  simp [optionalText?, quoted, Node.follow]

theorem choice?_display (plain : Bool) (display : Display) :
    choice? displayOfName? root (.scalar bare plain display.name.toList) = some display := by
  cases display <;> rfl

theorem fieldD?_quoted {s : String} (h : Field name mayLack (· = quoted s) own)
    {all : List (String × Node)} (hperm : fields.Perm all) (hown : all.filter (·.1 == name) = own)
    {absent : Option String} (habsent : mayLack → absent = some s) :
    fieldD? fields name absent (text? root) = some s := by
  refine fieldD?_field h hperm hown habsent fun node hnode => ?_
  rw [hnode]
  exact text?_quoted s

theorem fieldD?_option {text : Option String} (h : OptionField name text own)
    {all : List (String × Node)} (hperm : fields.Perm all)
    (hown : all.filter (·.1 == name) = own) :
    fieldD? fields name (some none) (optionalText? root) = some text := by
  refine fieldD?_field h hperm hown (fun hnone => by rw [hnone]) fun node hnode => ?_
  obtain ⟨s, hs, rfl⟩ := hnode
  rw [optionalText?_quoted, hs]

theorem dashboard?_node {dashboard : Dashboard} (h : IsDashboard dashboard node) :
    dashboard? root node = some dashboard := by
  obtain @⟨endpoint, header, fields, node, hendpoint, hheader, hperm, hnode⟩ := h
  have hfilter : ∀ name, (endpoint ++ header).filter (·.1 == name) =
      (if "add_graph_widget_url" = name then endpoint else []) ++
        if "canonical_url_header" = name then header else [] := by
    intro name
    rw [List.filter_append, filter_field hendpoint, filter_field hheader]
  rw [dashboard?, fields?_mapping hnode]
  simp only [Option.bind_eq_bind, Option.bind_some]
  rw [fieldD?_quoted hendpoint hperm (by simp [hfilter]) fun h => congrArg some h.symm,
    fieldD?_quoted hheader hperm (by simp [hfilter]) fun h => congrArg some h.symm]
  rfl

theorem graph?_node {graph : Graph} (h : IsGraph graph node) : graph? root node = some graph := by
  obtain @⟨id, title, sources, handle, display, fields, node, hid, htitle, hsources, hhandle,
    hdisplay, hperm, hnode⟩ := h
  have hfilter : ∀ name, (id ++ (title ++ (sources ++ (handle ++ display)))).filter (·.1 == name) =
      (if "id" = name then id else []) ++ ((if "title" = name then title else []) ++
        ((if "urls" = name then sources else []) ++
          ((if "handler_id" = name then handle else []) ++
            if "display" = name then display else []))) := by
    intro name
    simp only [List.filter_append, filter_field hid, filter_field htitle, filter_field hsources,
      filter_field hhandle, filter_field hdisplay]
  have hchoice : ∀ node, (∃ plain, node = .scalar bare plain graph.display.name.toList) →
      choice? displayOfName? root node = some graph.display := by
    rintro _ ⟨plain, rfl⟩
    exact choice?_display plain graph.display
  rw [graph?, fields?_mapping hnode]
  simp only [Option.bind_eq_bind, Option.bind_some]
  rw [fieldD?_quoted hid hperm (by simp [hfilter]) False.elim,
    fieldD?_option htitle hperm (by simp [hfilter]),
    fieldD?_quoted hsources hperm (by simp [hfilter]) False.elim,
    fieldD?_option hhandle hperm (by simp [hfilter]),
    fieldD?_field hdisplay hperm (by simp [hfilter]) (fun h => congrArg some h.symm) hchoice]
  rfl

theorem graphs?_node {graphs : List Graph} {items : List Node}
    (h : List.Forall₂ IsGraph graphs items) :
    ((items? root (.sequence bare items)).bind fun items => items.mapM (graph? root)) =
      some graphs := by
  change items.mapM (graph? root) = some graphs
  induction h with
  | nil => rfl
  | cons hgraph _ ih =>
    rw [List.mapM_cons, graph?_node hgraph, ih]
    rfl

theorem config?_node {config : Config} (h : IsConfig config node) : config? node = some config := by
  obtain @⟨base, page, dashboard, graphs, fields, node, hbase, hpage, hdashboard, hgraphs, hperm,
    hnode⟩ := h
  have hfilter : ∀ name, (base ++ (page ++ (dashboard ++ graphs))).filter (·.1 == name) =
      (if "base_url" = name then base else []) ++ ((if "page_target" = name then page else []) ++
        ((if "dashboard" = name then dashboard else []) ++
          if "graphs" = name then graphs else [])) := by
    intro name
    simp only [List.filter_append, filter_field hbase, filter_field hpage, filter_field hdashboard,
      filter_field hgraphs]
  have hitems : ∀ value, (∃ items, List.Forall₂ IsGraph config.graphs items ∧
      value = .sequence bare items) →
      ((items? node value).bind fun items => items.mapM (graph? node)) = some config.graphs := by
    rintro _ ⟨items, hitems, rfl⟩
    exact graphs?_node hitems
  rw [config?, fields?_mapping hnode]
  simp only [Option.bind_eq_bind, Option.bind_some]
  rw [fieldD?_option hbase hperm (by simp [hfilter]),
    fieldD?_quoted hpage hperm (by simp [hfilter]) fun h => congrArg some h.symm,
    fieldD?_field hdashboard hperm (by simp [hfilter]) (fun h => congrArg some h.symm)
      fun _ => dashboard?_node,
    fieldD?_field hgraphs hperm (by simp [hfilter]) False.elim hitems]
  rfl

end Reading

end Config

theorem ConfigText.parse {config : Config} {text : List Char} (h : ConfigText config text) :
    (parse? text).bind Config.config? = some config := by
  obtain ⟨node, before, inner, after, hconfig, hwritten, hbefore, hafter, rfl⟩ := h
  have hread := Config.config?_node hconfig
  obtain ⟨-, -, -, -, -, ⟨-⟩⟩ := hconfig
  cases hwritten with
  | mapping hentries =>
    rw [List.cons_append, parse?_mapping hentries hbefore hafter]
    exact hread

section Writing

variable {node : Node} {name : String} {fields own : List (String × Node)}

def fieldNames : List String :=
  ["base_url", "page_target", "dashboard", "graphs", "add_graph_widget_url",
    "canonical_url_header", "id", "title", "urls", "handler_id", "display"]

def HasText (node : Node) : Prop := ∃ text, Written node text

theorem scalarText_quoted (cs : List Char) :
    ScalarText false cs ('"' :: (cs.flatMap charText ++ ['"'])) :=
  .quoted (charsText_flatMap cs)

theorem hasText_quoted (s : String) : HasText (quoted s) :=
  ⟨_, .scalar (scalarText_quoted s.toList)⟩

theorem exists_key (h : name ∈ fieldNames) (plain : Bool) :
    ∃ key, ScalarText plain name.toList key ∧ key.length ≤ 1024 := by
  have hnames : ∀ name ∈ fieldNames, name.toList ≠ [] ∧ name.toList.all isWordChar = true ∧
      name.toList.length ≤ 1024 ∧ (name.toList.flatMap charText).length ≤ 1000 := by
    decide
  obtain ⟨hne, hword, hshort, hshort'⟩ := hnames name h
  cases plain with
  | true => exact ⟨_, .word hne (List.all_eq_true.1 hword), hshort⟩
  | false =>
    refine ⟨_, scalarText_quoted name.toList, ?_⟩
    simp only [List.length_cons, List.length_append, List.length_nil]
    omega

theorem exists_displayText (plain : Bool) (display : Display) :
    ∃ text, ScalarText plain display.name.toList text := by
  have hwords : ∀ display : Display, display.name.toList ≠ [] ∧
      display.name.toList.all isWordChar = true := by
    rintro (_ | _) <;> decide
  cases plain with
  | true => exact ⟨_, .word (hwords display).1 (List.all_eq_true.1 (hwords display).2)⟩
  | false => exact ⟨_, scalarText_quoted _⟩

theorem isSpace_nil : IsSpace [] := nofun

theorem exists_writtenItems {items : List Node} (h : ∀ item ∈ items, HasText item) :
    ∃ text, WrittenItems items text := by
  induction items with
  | nil => exact ⟨_, .nil isSpace_nil⟩
  | cons item items ih =>
    obtain ⟨⟨text, htext⟩, hmore⟩ := List.forall_mem_cons.1 h
    obtain ⟨more, hmore⟩ := ih hmore
    cases items with
    | nil => exact ⟨_, .last isSpace_nil htext isSpace_nil⟩
    | cons next items => exact ⟨_, .cons isSpace_nil htext isSpace_nil hmore⟩

theorem exists_writtenEntries {entries : List (Node × Node)}
    (h : ∀ entry ∈ entries, ∃ text, WrittenEntry entry text) :
    ∃ text, WrittenEntries entries text := by
  induction entries with
  | nil => exact ⟨_, .nil isSpace_nil⟩
  | cons entry entries ih =>
    obtain ⟨⟨text, htext⟩, hmore⟩ := List.forall_mem_cons.1 h
    obtain ⟨more, hmore⟩ := ih hmore
    cases entries with
    | nil => exact ⟨_, .last isSpace_nil htext isSpace_nil⟩
    | cons next entries => exact ⟨_, .cons isSpace_nil htext isSpace_nil hmore⟩

/-- Fields that can be written: they have known names, and their values have texts. -/
def Writable (fields : List (String × Node)) : Prop :=
  ∀ field ∈ fields, field.1 ∈ fieldNames ∧ HasText field.2

theorem exists_of_mem_right {α β : Type} {R : α → β → Prop} {as : List α} {bs : List β}
    (h : List.Forall₂ R as bs) {b : β} (hb : b ∈ bs) : ∃ a ∈ as, R a b := by
  induction h with
  | nil => contradiction
  | cons hR _ ih =>
    obtain rfl | hb := List.mem_cons.1 hb
    · exact ⟨_, List.mem_cons_self, hR⟩
    · obtain ⟨a, ha, hR'⟩ := ih hb
      exact ⟨a, List.mem_cons_of_mem _ ha, hR'⟩

theorem IsMapping.hasText (h : IsMapping fields node) (hfields : Writable fields) :
    HasText node := by
  obtain @⟨entries, hentries⟩ := h
  have hwritten : ∀ entry ∈ entries, ∃ text, WrittenEntry entry text := by
    intro entry hentry
    obtain ⟨field, hfield, plain, rfl⟩ := exists_of_mem_right hentries hentry
    obtain ⟨hname, text, htext⟩ := hfields field hfield
    obtain ⟨key, hkey, hlength⟩ := exists_key hname plain
    have hgap : IsSpace [' '] := fun c hc => List.mem_singleton.1 hc
    exact ⟨_, .entry hkey hlength hgap (fun _ => List.cons_ne_nil _ _) htext⟩
  obtain ⟨text, htext⟩ := exists_writtenEntries hwritten
  exact ⟨_, .mapping htext⟩

theorem Field.writable {mayLack : Prop} {IsValue : Node → Prop}
    (h : Field name mayLack IsValue own) (hname : name ∈ fieldNames)
    (hvalue : ∀ node, IsValue node → HasText node) : Writable own := by
  cases h with
  | absent => exact nofun
  | written h => exact List.forall_mem_singleton.2 ⟨hname, hvalue _ h⟩

theorem hasText_of_quoted (s : String) : ∀ node, node = quoted s → HasText node := by
  rintro _ rfl
  exact hasText_quoted s

theorem OptionField.writable {text : Option String} (h : OptionField name text own)
    (hname : name ∈ fieldNames) : Writable own := by
  refine Field.writable h hname ?_
  rintro _ ⟨s, -, rfl⟩
  exact hasText_quoted s

theorem Writable.append {fields more : List (String × Node)} (h : Writable fields)
    (hmore : Writable more) : Writable (fields ++ more) :=
  List.forall_mem_append.2 ⟨h, hmore⟩

theorem Writable.perm {fields all : List (String × Node)} (h : Writable all)
    (hperm : fields.Perm all) : Writable fields :=
  fun field hfield => h field (hperm.mem_iff.1 hfield)

theorem IsDashboard.hasText {dashboard : Dashboard} (h : IsDashboard dashboard node) :
    HasText node := by
  obtain ⟨hendpoint, hheader, hperm, hnode⟩ := h
  refine hnode.hasText (Writable.perm (.append ?_ ?_) hperm)
  · exact hendpoint.writable (by decide) (hasText_of_quoted _)
  · exact hheader.writable (by decide) (hasText_of_quoted _)

theorem IsGraph.hasText {graph : Graph} (h : IsGraph graph node) : HasText node := by
  obtain ⟨hid, htitle, hsources, hhandle, hdisplay, hperm, hnode⟩ := h
  refine hnode.hasText (Writable.perm (.append ?_ (.append ?_ (.append ?_ (.append ?_ ?_)))) hperm)
  · exact hid.writable (by decide) (hasText_of_quoted _)
  · exact htitle.writable (by decide)
  · exact hsources.writable (by decide) (hasText_of_quoted _)
  · exact hhandle.writable (by decide)
  · refine hdisplay.writable (by decide) ?_
    rintro _ ⟨plain, rfl⟩
    obtain ⟨text, htext⟩ := exists_displayText plain graph.display
    exact ⟨text, .scalar htext⟩

theorem IsConfig.hasText {config : Config} (h : IsConfig config node) : HasText node := by
  obtain ⟨hbase, hpage, hdashboard, hgraphs, hperm, hnode⟩ := h
  refine hnode.hasText (Writable.perm (.append ?_ (.append ?_ (.append ?_ ?_))) hperm)
  · exact hbase.writable (by decide)
  · exact hpage.writable (by decide) (hasText_of_quoted _)
  · exact hdashboard.writable (by decide) fun _ => IsDashboard.hasText
  · refine hgraphs.writable (by decide) ?_
    rintro _ ⟨items, hitems, rfl⟩
    obtain ⟨text, htext⟩ := exists_writtenItems fun item hitem => by
      obtain ⟨graph, -, hgraph⟩ := exists_of_mem_right hitems hitem
      exact hgraph.hasText
    exact ⟨_, .sequence htext⟩

theorem exists_option (name : String) (text : Option String) :
    ∃ own, OptionField name text own := by
  cases text with
  | none => exact ⟨_, .absent rfl⟩
  | some s => exact ⟨_, .written ⟨s, rfl, rfl⟩⟩

theorem exists_mapping (fields : List (String × Node)) : ∃ node, IsMapping fields node :=
  ⟨_, .mapping (List.forall₂_map_right_iff.2 (List.forall₂_same.2 fun _ _ => ⟨true, rfl⟩))⟩

theorem exists_dashboard (dashboard : Dashboard) : ∃ node, IsDashboard dashboard node := by
  obtain ⟨node, hnode⟩ := exists_mapping
    ([("add_graph_widget_url", quoted dashboard.endpoint)] ++
      [("canonical_url_header", quoted dashboard.header)])
  exact ⟨node, .fields (.written rfl) (.written rfl) (.refl _) hnode⟩

theorem exists_graph (graph : Graph) : ∃ node, IsGraph graph node := by
  obtain ⟨title, htitle⟩ := exists_option "title" graph.title
  obtain ⟨handle, hhandle⟩ := exists_option "handler_id" graph.handle
  obtain ⟨node, hnode⟩ := exists_mapping
    ([("id", quoted graph.id)] ++ (title ++ ([("urls", quoted graph.sources)] ++
      (handle ++ [("display", .scalar bare true graph.display.name.toList)]))))
  exact ⟨node, .fields (.written rfl) htitle (.written rfl) hhandle (.written ⟨true, rfl⟩)
    (.refl _) hnode⟩

theorem exists_graphs (graphs : List Graph) : ∃ items, List.Forall₂ IsGraph graphs items := by
  induction graphs with
  | nil => exact ⟨[], .nil⟩
  | cons graph graphs ih =>
    obtain ⟨node, hnode⟩ := exists_graph graph
    obtain ⟨items, hitems⟩ := ih
    exact ⟨node :: items, .cons hnode hitems⟩

theorem exists_config (config : Config) : ∃ node, IsConfig config node := by
  obtain ⟨base, hbase⟩ := exists_option "base_url" config.base
  obtain ⟨dashboard, hdashboard⟩ := exists_dashboard config.dashboard
  obtain ⟨items, hitems⟩ := exists_graphs config.graphs
  obtain ⟨node, hnode⟩ := exists_mapping
    (base ++ ([("page_target", quoted config.page)] ++ ([("dashboard", dashboard)] ++
      [("graphs", .sequence bare items)])))
  exact ⟨node, .fields hbase (.written rfl) (.written hdashboard) (.written ⟨items, hitems, rfl⟩)
    (.refl _) hnode⟩

end Writing

/-- Every configuration has a node and every node of it a text, whichever defaults are left out;
whatever text it has, if a board can be made of it, it is read back. -/
theorem config_read_back :
    (∀ config, ∃ node, IsConfig config node) ∧
    (∀ config node, IsConfig config node → ∃ text, Written node text) ∧
    ∀ config text, config.check = .ok () → ConfigText config text →
      Config.ofYaml (String.ofList text) = .ok config := by
  refine ⟨exists_config, fun _ _ => IsConfig.hasText, fun config text hcheck htext => ?_⟩
  rw [Config.ofYaml, String.toList_ofList, htext.parse]
  change (config.check >>= fun _ => pure config) = _
  rw [hcheck]
  rfl

theorem config_read_back_reordered : Config.ofYaml
    " \x7bgraphs: [ \x7burls:  \"/a\",\"id\":\"\\xe9 \\x22\" , display: series\x7d]\x7d" =
      .ok ⟨none, "", .standard, [⟨"é \"", none, "/a", none, .series⟩]⟩ := by
  have hspace : IsSpace [' '] := fun c hc => List.mem_singleton.1 hc
  have hspaces : IsSpace [' ', ' '] := by simp [IsSpace]
  have hword : ∀ name ∈ fieldNames ++ ["series"], ScalarText true name.toList name.toList := by
    have hwords : ∀ name ∈ fieldNames ++ ["series"], name.toList ≠ [] ∧
        name.toList.all isWordChar = true := by decide
    exact fun name hname => .word (hwords name hname).1 (List.all_eq_true.1 (hwords name hname).2)
  have hsources := WrittenEntry.entry (hword "urls" (by decide)) (by decide) hspaces
    (fun _ => List.cons_ne_nil _ _) (.scalar (scalarText_quoted "/a".toList))
  have hid := WrittenEntry.entry (scalarText_quoted "id".toList) (by decide) isSpace_nil nofun
    (.scalar (scalarText_quoted "é \"".toList))
  have hdisplay := WrittenEntry.entry (hword "display" (by decide)) (by decide) hspace
    (fun _ => List.cons_ne_nil _ _) (.scalar (hword "series" (by decide)))
  have hgraph := Written.mapping (.cons isSpace_nil hsources isSpace_nil
    (.cons isSpace_nil hid hspace (.last hspace hdisplay isSpace_nil)))
  have hgraphs := WrittenEntry.entry (hword "graphs" (by decide)) (by decide) hspace
    (fun _ => List.cons_ne_nil _ _) (.sequence (.last hspace hgraph isSpace_nil))
  have hwritten := Written.mapping (.last isSpace_nil hgraphs isSpace_nil)
  let graph : Graph := ⟨"é \"", none, "/a", none, .series⟩
  have hnode : IsGraph graph _ := .fields (.written rfl) (.absent rfl) (.written rfl) (.absent rfl)
    (.written ⟨true, rfl⟩) (.swap _ _ _)
    (.mapping (.cons ⟨true, rfl⟩ (.cons ⟨false, rfl⟩ (.cons ⟨true, rfl⟩ .nil))))
  have hconfig : IsConfig ⟨none, "", .standard, [graph]⟩ _ := .fields (.absent rfl) (.absent rfl)
    (.absent rfl) (.written ⟨_, .cons hnode .nil, rfl⟩) (.refl _)
    (.mapping (.cons ⟨true, rfl⟩ .nil))
  exact config_read_back.2.2 _ _ (by rfl)
    ⟨_, [' '], _, [], hconfig, hwritten, hspace, isSpace_nil, rfl⟩

end GraphBoard
