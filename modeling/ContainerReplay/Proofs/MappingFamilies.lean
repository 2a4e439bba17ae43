import ContainerReplay.Proofs.DeclaredDispatch
import ContainerReplay.Proofs.DeploymentStages

/-!
# The family that a mapping reaches

Servlets and filters have names of their own in a descriptor, while a component only has names.  A
mapping whose name its own section declares reaches that declaration.  Every other mapping reaches
the first class on record under its name, and that class may be of the other family.
-/

set_option autoImplicit false

namespace ContainerReplay

/-! ## The first class under a name -/

namespace Application

/-- A component is on record under a name, and no class before it is. -/
structure FirstUnder (app : Application) (name : String) (component : Component) : Prop where
  found : app.component? component.className = some component
  named : name ∈ component.names
  least : ∀ className, app.Declares className name →
    compare component.className className ≠ .gt

theorem FirstUnder.unique {app : Application} {name : String} {first second : Component}
    (left : app.FirstUnder name first) (right : app.FirstUnder name second) : first = second := by
  have lower := left.least second.className ⟨second, right.found, right.named⟩
  have upper := right.least first.className ⟨first, left.found, left.named⟩
  have found := left.found
  rw [className_antisymm lower upper, right.found, Option.some_inj] at found
  exact found.symm

theorem named?_eq_some_iff {app : Application} (keyed : app.Keyed) (name : String)
    (component : Component) :
    app.named? name = some component ↔ app.FirstUnder name component := by
  have first : ∀ found, app.named? name = some found → app.FirstUnder name found := by
    intro found answer
    obtain ⟨⟨stored, foundStored, member⟩, least⟩ := named?_some keyed answer
    have self := (keyed.mem_componentList found).mp (List.mem_of_find?_eq_some answer)
    rw [self, Option.some_inj] at foundStored
    exact ⟨self, foundStored ▸ member, least⟩
  constructor
  · exact first component
  · intro given
    cases answer : app.named? name with
    | none => exact absurd ⟨component, given.found, given.named⟩ (named?_none answer _)
    | some found => rw [(first found answer).unique given]

end Application

namespace Descriptor

/-! ## What a mapping does to a reading -/

/-- A mapping is taken: it adds to the component of one class and to nothing else. -/
structure Lands (reached next : Reading) (mapping : Mapping) (className : String) : Prop where
  target : ∃ component, reached.survey.app.component? className = some component ∧
    next.survey.app.component? className = some (mapping.addTo component)
  others : ∀ other, other ≠ className →
    next.survey.app.component? other = reached.survey.app.component? other
  diagnostics : next.survey.diagnostics = reached.survey.diagnostics
  summary : next.summary = { reached.summary with entries := reached.summary.entries + 1 }

/-- A mapping is skipped: it changes no component and gives one warning. -/
structure Skips (source : Source) (element : Markup.Element) (reached next : Reading)
    (reason : String) : Prop where
  app : next.survey.app = reached.survey.app
  diagnostics : next.survey.diagnostics = reached.survey.diagnostics ++
    [⟨.warn, s!"Skipping {reason} at {source.position element}", some source.resource⟩]
  summary : next.summary = { reached.summary with skipped := reached.summary.skipped + 1 }

theorem skips_skip (source : Source) (element : Markup.Element) (reading : Reading)
    (reason : String) :
    Skips source element reading (reading.skip source element reason) reason :=
  ⟨rfl, rfl, rfl⟩

namespace MappingForm

variable (form : MappingForm) (source : Source) {declarations : Declarations} {reading : Reading}
  {element : Markup.Element}

theorem take_nameless (nameless : form.mapping? element = none) :
    Skips source element reading (form.take source declarations reading element) form.unnamed := by
  rw [take, nameless]
  exact skips_skip source element reading form.unnamed

theorem take_unknown {mapping : Mapping} (read : form.mapping? element = some mapping)
    (missing : Deployment.mappingTarget? reading.survey.app declarations mapping.name = none) :
    Skips source element reading (form.take source declarations reading element)
      (form.unknown mapping.name) := by
  rw [take, read]
  simp only [missing]
  exact skips_skip source element reading (form.unknown mapping.name)

theorem take_known {mapping : Mapping} (read : form.mapping? element = some mapping)
    (keyed : reading.survey.app.Keyed) {className : String}
    (target : Deployment.mappingTarget? reading.survey.app declarations mapping.name =
      some className) :
    Lands reading (form.take source declarations reading element) mapping className := by
  obtain ⟨component, found⟩ := mappingTarget?_found keyed target
  rw [take, read]
  simp only [target]
  refine ⟨⟨component, found, ?_⟩, fun other different => ?_, rfl, rfl⟩
  · simp only [Reading.count_app, Reading.updateApp_app, Application.component?_modify, if_true,
      found, Option.map_some]
  · simp only [Reading.count_app, Reading.updateApp_app, Application.component?_modify,
      if_neg (Ne.symm different)]

end MappingForm

/-! ## The two families -/

inductive Family where
  | servlets
  | filters

namespace Family

def form : Family → DeclarationForm
  | servlets => servletForm
  | filters => filterForm

def mappingForm : Family → MappingForm
  | servlets => .servlets
  | filters => .filters

def kinds : Family → List Kind
  | servlets => [.servlet, .actionServlet]
  | filters => [.filter]

def declared? : Family → Markup.Element → Option NamedComponent
  | servlets => Deployment.declaredServlet?
  | filters => Deployment.declaredFilter?

/-- What a descriptor declares in the section of a family. -/
def declared (family : Family) (root : Markup.Element) : List NamedComponent :=
  (root.childrenNamed family.form.element).filterMap family.declared?

/-- A reading as it stands after some mappings of a family, those of servlets being read first. -/
def reached (source : Source) (reading : Reading) : Family → List Markup.Element → Reading
  | servlets => Deployment.routingServlets source reading
  | filters => Deployment.routingFilters source reading

/-- No element of a family's section declares a class under a name. -/
def Silent (family : Family) (root : Markup.Element) (name : String) : Prop :=
  ∀ element ∈ root.childrenNamed family.form.element, ∀ className,
    ¬ family.form.Declares element name className

/-- A component is one that mappings of a family may be for: its class is declared under the name,
or it is on record under the name and of a kind of the family. -/
structure Suits (family : Family) (root : Markup.Element) (app : Application) (name : String)
    (component : Component) : Prop where
  found : app.component? component.className = some component
  related : (∃ element ∈ root.childrenNamed family.form.element,
      family.form.Declares element name component.className) ∨
    name ∈ component.names ∧ component.kind ∈ family.kinds

/-- No declaration gives a mapping its class, and the first class on record under the name is none of
the family. -/
structure Strays (family : Family) (root : Markup.Element) (app : Application) (name : String)
    (component : Component) : Prop where
  silent : family.Silent root name
  first : app.FirstUnder name component
  foreign : component.kind ∉ family.kinds

theorem declares_iff (family : Family) (element : Markup.Element) (name className : String) :
    (family.declared? element).map (fun entry => (entry.name, entry.component.className)) =
        some (name, className) ↔
      family.form.Declares element name className := by
  rw [Option.map_eq_some_iff]
  cases family with
  | servlets =>
      constructor
      · rintro ⟨entry, taken, same⟩
        cases same
        exact DeclarationForm.declares_of_declaredServlet taken
      · rintro ⟨named, ofClass⟩
        simp only [form, servletForm] at named ofClass
        simp only [declared?, Deployment.declaredServlet?, named, ofClass]
        refine ⟨_, rfl, ?_⟩
        simp only [DeclarationForm.declaredComponent_className]
  | filters =>
      constructor
      · rintro ⟨entry, taken, same⟩
        cases same
        exact DeclarationForm.declares_of_declaredFilter taken
      · rintro ⟨named, ofClass⟩
        simp only [form, filterForm] at named ofClass
        simp only [declared?, Deployment.declaredFilter?, named, ofClass]
        refine ⟨_, rfl, ?_⟩
        simp only [DeclarationForm.declaredComponent_className]

/-- The names of a section stand for the classes of their last declarations. -/
theorem class?_eq_some_iff (family : Family) (root : Markup.Element) (name className : String) :
    (declarationsOf (family.declared root)).class? name = some className ↔
      family.form.LastDeclares root name className := by
  have listed : declarationsOf (family.declared root) =
      ((root.childrenNamed family.form.element).filterMap fun element =>
        (family.declared? element).map fun entry =>
          (entry.name, entry.component.className)).reverse := by
    rw [declarationsOf, declared, List.map_filterMap]
  have answers : (declarationsOf (family.declared root)).class? name = some className ↔
      (declarationsOf (family.declared root)).find? (fun declaration => declaration.1 == name) =
        some (name, className) := by
    unfold Declarations.class?
    split
    · rename_i declaration answer
      obtain ⟨declaredName, declaredClass⟩ := declaration
      have same := List.find?_some answer
      rw [answer, ← beq_iff_eq.mp same]
      simp
    · rename_i answer
      rw [answer]
      simp
  rw [answers, listed, find?_reverse_filterMap_iff]
  simp only [declares_iff, DeclarationForm.LastDeclares, beq_self_eq_true, true_and]
  constructor
  · rintro ⟨before, element, after, divided, declares, others⟩
    refine ⟨before, element, after, divided, declares, fun later member other again => ?_⟩
    have differs := others later member (name, other) ((family.declares_iff later name other).mpr again)
    simp at differs
  · rintro ⟨before, element, after, divided, declares, others⟩
    refine ⟨before, element, after, divided, declares, fun later member other again => ?_⟩
    obtain ⟨otherName, otherClass⟩ := other
    refine beq_eq_false_iff_ne.mpr fun same => others later member otherClass ?_
    have sameName : otherName = name := same
    rw [← sameName]
    exact (family.declares_iff later otherName otherClass).mp again

theorem class?_eq_none_iff (family : Family) (root : Markup.Element) (name : String) :
    (declarationsOf (family.declared root)).class? name = none ↔ family.Silent root name := by
  constructor
  · intro missing element member className declares
    obtain ⟨entry, taken, same⟩ :=
      Option.map_eq_some_iff.mp ((family.declares_iff element name className).mpr declares)
    exact class?_none missing entry (List.mem_filterMap.mpr ⟨element, member, taken⟩)
      (congrArg Prod.fst same)
  · intro silent
    rw [Option.eq_none_iff_forall_ne_some]
    intro className declared
    obtain ⟨before, element, after, divided, declares, _⟩ :=
      (family.class?_eq_some_iff root name className).mp declared
    exact silent element (by rw [divided]; simp) className declares

theorem Strays.not_suits {family : Family} {root : Markup.Element} {app : Application}
    {name : String} {component : Component} (strays : family.Strays root app name component) :
    ¬ family.Suits root app name component := by
  rintro ⟨_, ⟨element, member, declares⟩ | ⟨_, ofFamily⟩⟩
  · exact strays.silent element member component.className declares
  · exact strays.foreign ofFamily

theorem target_of_silent (family : Family) (app : Application) {root : Markup.Element}
    {name : String} (silent : family.Silent root name) :
    Deployment.mappingTarget? app (declarationsOf (family.declared root)) name =
      (app.named? name).map Component.className := by
  rw [Deployment.mappingTarget?, (family.class?_eq_none_iff root name).mpr silent]

/-- A mapping that does not stray is taken by a component that suits it, or skipped. -/
theorem takes_unless_strays (family : Family) (source : Source) {reading : Reading}
    {element : Markup.Element} {mapping : Mapping}
    (read : family.mappingForm.mapping? element = some mapping)
    (keyed : reading.survey.app.Keyed)
    (stands : Stands (family.declared source.document.root) reading.survey.app)
    (settled : ¬ ∃ stray,
      family.Strays source.document.root reading.survey.app mapping.name stray) :
    let next := family.mappingForm.take source
      (declarationsOf (family.declared source.document.root)) reading element
    (∃ component, family.Suits source.document.root reading.survey.app mapping.name component ∧
      Lands reading next mapping component.className) ∨
    (∀ component,
        ¬ family.Suits source.document.root reading.survey.app mapping.name component) ∧
      Skips source element reading next (family.mappingForm.unknown mapping.name) := by
  intro next
  cases declared : (declarationsOf (family.declared source.document.root)).class? mapping.name with
  | some className =>
      have target := mappingTarget?_declared keyed stands declared
      obtain ⟨component, found⟩ := mappingTarget?_found keyed target
      obtain rfl := keyed className component found
      obtain ⟨before, last, after, divided, declares, _⟩ :=
        (family.class?_eq_some_iff _ _ _).mp declared
      refine Or.inl ⟨component, ⟨found, Or.inl ⟨last, ?_, declares⟩⟩, ?_⟩
      · rw [divided]
        simp
      · exact family.mappingForm.take_known source read keyed target
  | none =>
      have silent := (family.class?_eq_none_iff _ _).mp declared
      have target := family.target_of_silent reading.survey.app silent
      cases recorded : reading.survey.app.named? mapping.name with
      | some component =>
          have first := (Application.named?_eq_some_iff keyed _ _).mp recorded
          have ofFamily : component.kind ∈ family.kinds := by
            by_contra foreign
            exact settled ⟨component, silent, first, foreign⟩
          rw [recorded] at target
          refine Or.inl ⟨component, ⟨first.found, Or.inr ⟨first.named, ofFamily⟩⟩, ?_⟩
          exact family.mappingForm.take_known source read keyed target
      | none =>
          rw [recorded] at target
          refine Or.inr ⟨?_, family.mappingForm.take_unknown source read target⟩
          rintro component ⟨found, ⟨other, member, declares⟩ | ⟨named, _⟩⟩
          · exact silent other member component.className declares
          · exact Application.named?_none recorded _ ⟨component, found, named⟩

/-! ## A mapping in its reading -/

section

variable (family : Family) (source : Source) {survey : Survey}
  (wellFormed : survey.app.WellFormed) (mappings : List Markup.Element)

theorem reached_concat (reading : Reading) (element : Markup.Element) :
    family.reached source reading (mappings ++ [element]) =
      family.mappingForm.take source (declarationsOf (family.declared source.document.root))
        (family.reached source reading mappings) element := by
  cases family with
  | servlets => exact List.foldl_append
  | filters => exact List.foldl_append

include wellFormed in
/-- Mappings are taken after the declarations of both sections, and they change neither the classes
on record nor their names. -/
theorem reached_invariant :
    (family.reached source ⟨survey, {}⟩ mappings).survey.app.WellFormed ∧
      Stands (family.declared source.document.root)
        (family.reached source ⟨survey, {}⟩ mappings).survey.app ∧
      ∀ className name,
        (family.reached source ⟨survey, {}⟩ mappings).survey.app.Declares className name ↔
          survey.app.Declares className name ∨
            (Deployment.contentOf source.document.root).Declares className name := by
  let content := Deployment.contentOf source.document.root
  have regular : content.Regular := Deployment.contentOf_regular source.document.root
  have declaredWellFormed : (content.declare survey.app).WellFormed :=
    (Content.evolves_declare regular survey.app).wellFormed wellFormed
  cases family with
  | servlets =>
      have routed := evolves_foldl_route (declarationsOf content.servlets)
        (mappings.filterMap MappingForm.servlets.mapping?) (content.declare survey.app)
      simp only [reached, Deployment.routingServlets_app]
      refine ⟨routed.wellFormed declaredWellFormed,
        (Content.stands_servlets survey.app).grows routed.grows, fun className name => ?_⟩
      rw [declares_foldl_route, Content.declares_declare]
  | filters =>
      have servlets := evolves_foldl_route (declarationsOf content.servlets)
        content.servletMappings (content.declare survey.app)
      have routed := servlets.trans (evolves_foldl_route (declarationsOf content.filters)
        (mappings.filterMap MappingForm.filters.mapping?) _)
      simp only [reached, Deployment.routingFilters_app]
      refine ⟨routed.wellFormed declaredWellFormed,
        (Content.stands_filters survey.app).grows routed.grows, fun className name => ?_⟩
      rw [declares_foldl_route, declares_foldl_route, Content.declares_declare]

/-- What a mapping added is still there when all of the descriptor was read. -/
theorem reached_grows {after : List Markup.Element}
    (divided : source.document.root.childrenNamed family.form.mappingElement = mappings ++ after)
    (reading : Reading) :
    (family.reached source reading mappings).survey.app.Grows
      (Deployment.readRoot source reading).survey.app := by
  let content := Deployment.contentOf source.document.root
  have completed : (content.routeAll (content.declare reading.survey.app)).Grows
      (Deployment.readRoot source reading).survey.app := by
    rw [Deployment.readRoot_app]
    exact (Content.evolves_complete (Deployment.contentOf_regular _) _).grows
  refine Application.Grows.trans ?_ completed
  cases family with
  | servlets =>
      have all : content.servletMappings =
          mappings.filterMap MappingForm.servlets.mapping? ++
            after.filterMap MappingForm.servlets.mapping? := by
        rw [← List.filterMap_append, ← divided]
        rfl
      simp only [reached, Deployment.routingServlets_app]
      rw [Content.routeAll, all, List.foldl_append]
      exact ((evolves_foldl_route _ _ _).trans (evolves_foldl_route _ _ _)).grows
  | filters =>
      have all : content.filterMappings =
          mappings.filterMap MappingForm.filters.mapping? ++
            after.filterMap MappingForm.filters.mapping? := by
        rw [← List.filterMap_append, ← divided]
        rfl
      simp only [reached, Deployment.routingFilters_app]
      rw [Content.routeAll, all, List.foldl_append]
      exact (evolves_foldl_route _ _ _).grows

end

/-- A mapping does what it should unless it strays: it is taken by a component that suits it, or no
component does and it is skipped with a warning.  A mapping that strays is taken without a warning by
a component that does not suit it.  What a mapping adds stays while the rest of the descriptor is
read. -/
theorem mapping_lands_or_strays (family : Family) {resource : String} {bytes : ByteArray}
    {survey : Survey} {source : Source} {before after : List Markup.Element}
    {element : Markup.Element} (wellFormed : survey.app.WellFormed)
    (opened : openSource resource Deployment.roots bytes = .ok source)
    (divided : source.document.root.childrenNamed family.form.mappingElement =
      before ++ element :: after) :
    let root := source.document.root
    let reached := family.reached source ⟨survey, {}⟩ before
    let next := family.reached source ⟨survey, {}⟩ (before ++ [element])
    (∃ reading, Deployment.readBytes resource bytes survey = .ok reading ∧
      next.survey.app.Grows reading.survey.app) ∧
    (∀ className name, reached.survey.app.Declares className name ↔
      survey.app.Declares className name ∨
        (Deployment.contentOf root).Declares className name) ∧
    (family.mappingForm.mapping? element = none →
      Skips source element reached next family.mappingForm.unnamed) ∧
    ∀ mapping, family.mappingForm.mapping? element = some mapping →
      ((¬ ∃ stray, family.Strays root reached.survey.app mapping.name stray) →
        (∃ component, family.Suits root reached.survey.app mapping.name component ∧
          Lands reached next mapping component.className) ∨
        (∀ component, ¬ family.Suits root reached.survey.app mapping.name component) ∧
          Skips source element reached next (family.mappingForm.unknown mapping.name)) ∧
      ∀ stray, family.Strays root reached.survey.app mapping.name stray →
        Lands reached next mapping stray.className ∧
          ¬ family.Suits root reached.survey.app mapping.name stray := by
  intro root reached next
  obtain ⟨reachedWellFormed, stands, names⟩ := family.reached_invariant source wellFormed before
  have step : next = family.mappingForm.take source
      (declarationsOf (family.declared root)) reached element :=
    family.reached_concat source before ⟨survey, {}⟩ element
  have split : source.document.root.childrenNamed family.form.mappingElement =
      (before ++ [element]) ++ after := by
    rw [divided, List.append_assoc, List.singleton_append]
  refine ⟨⟨Deployment.readRoot source ⟨survey, {}⟩, ?_, ?_⟩, names, ?_, ?_⟩
  · simp only [Deployment.readBytes, opened]
  · exact family.reached_grows source (before ++ [element]) split ⟨survey, {}⟩
  · intro nameless
    rw [step]
    exact family.mappingForm.take_nameless source nameless
  · intro mapping read
    rw [step]
    refine ⟨fun settled => ?_, fun stray strays => ⟨?_, strays.not_suits⟩⟩
    · exact family.takes_unless_strays source read reachedWellFormed.keyed stands settled
    · refine family.mappingForm.take_known source read reachedWellFormed.keyed ?_
      rw [family.target_of_silent _ strays.silent,
        (Application.named?_eq_some_iff reachedWellFormed.keyed _ _).mpr strays.first]
      rfl

/-- A servlet mapping that names a filter. -/
def misdirectedDescriptor : ByteArray :=
  String.toUTF8 <|
    "<web-app><filter><filter-name>f</filter-name><filter-class>C</filter-class></filter>" ++
      "<servlet-mapping><servlet-name>f</servlet-name><url-pattern>/p</url-pattern>" ++
      "</servlet-mapping></web-app>"

/-- The filter gets the pattern and nothing is said. -/
theorem mapping_strays_to_filter :
    ({} : Survey).app.WellFormed ∧
      ∃ source element reading stray final,
        openSource "web.xml" Deployment.roots misdirectedDescriptor = .ok source ∧
        source.document.root.childrenNamed "servlet-mapping" = [element] ∧
        Deployment.readBytes "web.xml" misdirectedDescriptor {} = .ok reading ∧
        Lands (Family.servlets.reached source ⟨{}, {}⟩ [])
          (Family.servlets.reached source ⟨{}, {}⟩ [element]) ⟨"f", ["/p"], []⟩ "C" ∧
        Family.servlets.Strays source.document.root
          (Family.servlets.reached source ⟨{}, {}⟩ []).survey.app "f" stray ∧
        stray.className = "C" ∧ stray.kind = .filter ∧
        reading.survey.app.component? "C" = some final ∧ "/p" ∈ final.urlPatterns := by
  have wellFormed : ({} : Survey).app.WellFormed := Application.wellFormed_empty
  have readable : (openSource "web.xml" Deployment.roots misdirectedDescriptor).toOption.any
      (fun source =>
        (source.document.root.childrenNamed "servlet").isEmpty &&
        (source.document.root.childrenNamed "servlet-mapping").map (fun element =>
            (childText? element "servlet-name", childTexts element "url-pattern")) ==
          [(some "f", ["/p"])] &&
        ((Family.servlets.reached source ⟨{}, {}⟩ []).survey.app.named? "f").any fun component =>
          component.className == "C" && component.kind == .filter) = true := by
    decide +kernel
  obtain ⟨source, opened, stated⟩ := exists_ok_of_any readable
  simp only [Bool.and_eq_true, beq_iff_eq, List.isEmpty_iff] at stated
  obtain ⟨⟨noServlets, mapped⟩, recorded⟩ := stated
  obtain ⟨element, none, divided, texts, noneLeft⟩ := List.map_eq_cons_iff.mp mapped
  obtain rfl := List.map_eq_nil_iff.mp noneLeft
  simp only [Prod.mk.injEq] at texts
  have read : Family.servlets.mappingForm.mapping? element = some ⟨"f", ["/p"], []⟩ := by
    simp only [mappingForm, MappingForm.servlets, Deployment.servletMapping?, texts,
      Option.map_some]
  obtain ⟨⟨reading, readAll, grows⟩, _, _, outcome⟩ := mapping_lands_or_strays .servlets
    wellFormed opened (List.nil_append [element] ▸ divided)
  obtain ⟨stray, answer, facts⟩ := (Option.any_eq_true _ _).mp recorded
  simp only [Bool.and_eq_true, beq_iff_eq] at facts
  have keyed := (Family.servlets.reached_invariant source wellFormed []).1.keyed
  have strays : Family.servlets.Strays source.document.root
      (Family.servlets.reached source ⟨{}, {}⟩ []).survey.app "f" stray := by
    refine ⟨?_, (Application.named?_eq_some_iff keyed "f" stray).mp answer, ?_⟩
    · intro servlet member
      rw [show source.document.root.childrenNamed Family.servlets.form.element = [] from
        noServlets] at member
      cases member
    · rw [facts.2]
      decide
  have lands := ((outcome _ read).2 stray strays).1
  rw [facts.1] at lands
  obtain ⟨component, _, landed⟩ := lands.target
  obtain ⟨final, found, growth⟩ := grows.components "C" _ landed
  refine ⟨wellFormed, source, element, reading, stray, final, opened, divided,
    readAll, lands, strays, facts.1, facts.2, found, growth.urlPatterns "/p" ?_⟩
  rw [Mapping.addTo_eq, Std.ExtTreeSet.mem_insertMany_list]
  exact Or.inr rfl

end Family

end Descriptor

end ContainerReplay
