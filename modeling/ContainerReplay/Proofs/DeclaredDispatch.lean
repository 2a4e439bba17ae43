import ContainerReplay.EntryPoint
import ContainerReplay.Proofs.DriverAccounting
import ContainerReplay.Proofs.RepeatedRuns
import ContainerReplay.Proofs.UnitStatements

/-!
# Nothing that is declared is lost

From a declaration in the deployment descriptor to the calls in the driver: the declared class is a
component under its name, it has the patterns that are mapped to the name, and its unit requests
each of them.
-/

set_option autoImplicit false

namespace ContainerReplay

open Descriptor Detection Synthesis

/-! ## Declarations and mappings in a descriptor -/

/-- How a descriptor declares and maps the components of one kind, and how these are called. -/
structure DeclarationForm where
  element : String
  mappingElement : String
  nameChild : String
  classChild : String
  kind : Kind
  method : String

def servletForm : DeclarationForm where
  element := "servlet"
  mappingElement := "servlet-mapping"
  nameChild := "servlet-name"
  classChild := "servlet-class"
  kind := .servlet
  method := "service"

def filterForm : DeclarationForm where
  element := "filter"
  mappingElement := "filter-mapping"
  nameChild := "filter-name"
  classChild := "filter-class"
  kind := .filter
  method := "doFilter"

namespace DeclarationForm

def Declares (form : DeclarationForm) (element : Markup.Element) (name className : String) :
    Prop :=
  childText? element form.nameChild = some name ∧
    childText? element form.classChild = some className

/-- The last element of a root that declares a name declares it for a class. -/
def LastDeclares (form : DeclarationForm) (root : Markup.Element) (name className : String) :
    Prop :=
  ∃ before element after, root.childrenNamed form.element = before ++ element :: after ∧
    form.Declares element name className ∧
    ∀ later ∈ after, ∀ other, ¬ form.Declares later name other

def Maps (form : DeclarationForm) (root : Markup.Element) (name pattern : String) : Prop :=
  ∃ element ∈ root.childrenNamed form.mappingElement,
    childText? element form.nameChild = some name ∧ pattern ∈ childTexts element "url-pattern"

end DeclarationForm

/-- A name stands for the class of the last entry under it. -/
theorem class?_append {before after : List NamedComponent} {entry : NamedComponent}
    (others : ∀ later ∈ after, later.name ≠ entry.name) :
    (declarationsOf (before ++ entry :: after)).class? entry.name =
      some entry.component.className := by
  have skipped : (declarationsOf after).find? (fun declaration => declaration.1 == entry.name) =
      none := by
    refine List.find?_eq_none.mpr fun declaration member => ?_
    rw [declarationsOf, List.mem_reverse] at member
    obtain ⟨later, laterMember, rfl⟩ := List.mem_map.mp member
    exact fun same => others later laterMember (beq_iff_eq.mp same)
  have reversed : declarationsOf (before ++ entry :: after) =
      declarationsOf after ++ (entry.name, entry.component.className) :: declarationsOf before := by
    simp [declarationsOf]
  rw [Declarations.class?, reversed, List.find?_append, skipped, Option.none_or, List.find?_cons,
    beq_iff_eq.mpr rfl]

namespace DeclarationForm

/-- A section of a content holds what a root declares and maps in a form. -/
structure Fits (form : DeclarationForm) (root : Markup.Element) (part : MappingSection) : Prop where
  declared : ∀ element ∈ root.childrenNamed form.element, ∀ name className,
    form.Declares element name className →
      ∃ entry ∈ part.declared, entry.name = name ∧ entry.component.className = className
  last : ∀ name className, form.LastDeclares root name className →
    (declarationsOf part.declared).class? name = some className
  mapped : ∀ name pattern, form.Maps root name pattern →
    ∃ mapping ∈ part.mappings, mapping.name = name ∧ pattern ∈ mapping.urlPatterns

/-- Elements that are taken one by one fit a form if each is taken as the form reads it. -/
theorem fits_of_elements {form : DeclarationForm} {root : Markup.Element}
    {declared? : Markup.Element → Option NamedComponent}
    {mapping? : Markup.Element → Option Mapping}
    (declares : ∀ element name className, form.Declares element name className →
      ∃ entry, declared? element = some entry ∧ entry.name = name ∧
        entry.component.className = className)
    (only : ∀ element entry, declared? element = some entry →
      ∃ className, form.Declares element entry.name className)
    (maps : ∀ element name, childText? element form.nameChild = some name →
      ∃ mapping, mapping? element = some mapping ∧ mapping.name = name ∧
        mapping.urlPatterns = childTexts element "url-pattern") :
    form.Fits root
      ⟨(root.childrenNamed form.element).filterMap declared?,
        (root.childrenNamed form.mappingElement).filterMap mapping?⟩ := by
  constructor
  · intro element member name className declared
    obtain ⟨entry, taken, named, ofClass⟩ := declares element name className declared
    exact ⟨entry, List.mem_filterMap.mpr ⟨element, member, taken⟩, named, ofClass⟩
  · rintro name className ⟨before, element, after, divided, declared, others⟩
    obtain ⟨entry, taken, rfl, rfl⟩ := declares element name className declared
    simp only [divided, List.filterMap_append, List.filterMap_cons, taken]
    -- a later entry under the name would come from an element that declares the name again
    refine class?_append fun later laterMember same => ?_
    obtain ⟨laterElement, elementMember, laterTaken⟩ := List.mem_filterMap.mp laterMember
    obtain ⟨other, redeclared⟩ := only laterElement later laterTaken
    rw [same] at redeclared
    exact others laterElement elementMember other redeclared
  · rintro name pattern ⟨element, member, named, listed⟩
    obtain ⟨mapping, taken, ofName, patterns⟩ := maps element name named
    exact ⟨mapping, List.mem_filterMap.mpr ⟨element, member, taken⟩, ofName, patterns ▸ listed⟩

theorem declaredComponent_className (className : String) (kind : Kind) (name : String)
    (parameters : List (String × String)) :
    (Deployment.declaredComponent className kind name parameters).className = className := by
  obtain ⟨table, same⟩ := Deployment.declaredComponent_eq className kind name parameters
  rw [same]
  rfl

theorem declares_of_declaredServlet {element : Markup.Element} {entry : NamedComponent}
    (taken : Deployment.declaredServlet? element = some entry) :
    servletForm.Declares element entry.name entry.component.className := by
  unfold Deployment.declaredServlet? at taken
  split at taken
  · rename_i name className named ofClass
    cases taken
    refine ⟨named, ofClass.trans ?_⟩
    rw [declaredComponent_className]
  · cases taken

theorem declares_of_declaredFilter {element : Markup.Element} {entry : NamedComponent}
    (taken : Deployment.declaredFilter? element = some entry) :
    filterForm.Declares element entry.name entry.component.className := by
  unfold Deployment.declaredFilter? at taken
  split at taken
  · rename_i name className named ofClass
    cases taken
    refine ⟨named, ofClass.trans ?_⟩
    rw [declaredComponent_className]
  · cases taken

theorem servletForm_fits (root : Markup.Element) :
    servletForm.Fits root
      ⟨(Deployment.contentOf root).servlets, (Deployment.contentOf root).servletMappings⟩ := by
  refine fits_of_elements ?_ ?_ ?_
  · rintro element name className ⟨named, ofClass⟩
    simp only [servletForm] at named ofClass
    unfold Deployment.declaredServlet?
    rw [named, ofClass]
    exact ⟨_, rfl, rfl, declaredComponent_className className .servlet name _⟩
  · intro element entry taken
    exact ⟨_, declares_of_declaredServlet taken⟩
  · intro element name named
    simp only [servletForm] at named
    unfold Deployment.servletMapping?
    rw [named]
    exact ⟨_, rfl, rfl, rfl⟩

theorem filterForm_fits (root : Markup.Element) :
    filterForm.Fits root
      ⟨(Deployment.contentOf root).filters, (Deployment.contentOf root).filterMappings⟩ := by
  refine fits_of_elements ?_ ?_ ?_
  · rintro element name className ⟨named, ofClass⟩
    simp only [filterForm] at named ofClass
    unfold Deployment.declaredFilter?
    rw [named, ofClass]
    exact ⟨_, rfl, rfl, declaredComponent_className className .filter name _⟩
  · intro element entry taken
    exact ⟨_, declares_of_declaredFilter taken⟩
  · intro element name named
    simp only [filterForm] at named
    unfold Deployment.filterMapping?
    rw [named]
    exact ⟨_, rfl, rfl, rfl⟩

end DeclarationForm

/-! ## From the descriptor to the application -/

namespace Course

variable {course : Course} {site : Site} {content : Content} {form : DeclarationForm}
  {root : Markup.Element} {part : MappingSection}

/-- What a section of the descriptor declares is a component under its name after a run. -/
theorem declared_in_effect (taken : course.descriptorStage = true)
    (read : descriptorContent? site.loader deploymentDescriptor = some content)
    (partMember : part ∈ content.sections) {entry : NamedComponent}
    (member : entry ∈ part.declared) :
    ∃ component, (course.effect site {}).component? entry.component.className = some component ∧
      entry.name ∈ component.names := by
  have regular := descriptorContent?_regular read
  have held := (Content.held_install regular (course.surveyed site {})).grows
    (install_grows_effect taken read {})
  have covered : (course.effect site {}).Covers entry.component ∧
      entry.name ∈ entry.component.names := by
    rcases List.mem_cons.mp partMember with rfl | later
    · exact ⟨held.servlets _ (List.mem_map_of_mem member),
        ((regular.servlets entry member).names entry.name).mpr rfl⟩
    · rw [List.mem_singleton.mp later] at member
      exact ⟨held.filters _ (List.mem_map_of_mem member),
        ((regular.filters entry member).names entry.name).mpr rfl⟩
  obtain ⟨⟨component, found, covers⟩, named⟩ := covered
  exact ⟨component, found, covers.names entry.name named⟩

/-- What a section of the descriptor maps to a name that it declares is on the class of the name's
last declaration after a run. -/
theorem mapped_in_effect (taken : course.descriptorStage = true)
    (read : descriptorContent? site.loader deploymentDescriptor = some content)
    (partMember : part ∈ content.sections) {name className : String}
    (declared : (declarationsOf part.declared).class? name = some className) {mapping : Mapping}
    (member : mapping ∈ part.mappings) (named : mapping.name = name) :
    Carries (course.effect site {}) className mapping := by
  subst named
  have inEffect : mapping.InEffect part.declared (course.effect site {}) := by
    refine inEffect_effect Application.wellFormed_empty taken read partMember member
      fun undeclared => ?_
    rw [declared] at undeclared
    cases undeclared
  refine inEffect className ?_
  refine mappingTarget?_declared
    (course.wellFormed_effect site Application.wellFormed_empty).keyed ?_ declared
  intro component componentMember
  obtain ⟨entry, entryMember, rfl⟩ := List.mem_map.mp componentMember
  obtain ⟨stored, found, _⟩ := declared_in_effect taken read partMember entryMember
  exact ⟨stored, found⟩

end Course

/-! ## From the application to the driver -/

def Creator.standard : Creator where
  registry := Registry.builtin
  templates := TemplateSet.ofList builtinTemplates

theorem Creator.ofRegistry_builtin :
    Creator.ofRegistry Registry.builtin builtinCatalog = .ok Creator.standard := rfl

theorem Creator.standard_app (site : Site) :
    (Creator.standard.create site).app =
      (Course.ofSelection ["servlet", "struts"] false site.loader).effect site {} :=
  Registry.run_app rfl false site {} Application.wellFormed_empty

theorem Creator.standard_keyed (site : Site) : (Creator.standard.create site).app.Keyed := by
  rw [Creator.standard_app]
  exact (Course.wellFormed_effect _ site Application.wellFormed_empty).keyed

/-- A component that is of the kind of a form has exactly one unit, which replays its calls. -/
theorem Creator.standard_unit {form : DeclarationForm} (known : form ∈ [servletForm, filterForm])
    (site : Site) {component : Component}
    (stored : (Creator.standard.create site).app.component? component.className = some component)
    (kind : component.kind = form.kind) :
    ∃ unit, ((Creator.standard.create site).driver.units.filter
        fun unit => unit.component == component.className) = [unit] ∧
      ReplaysCalls unit.statements component form.method := by
  have keyed := Creator.standard_keyed site
  let scene : Scene := ⟨(Creator.standard.create site).app, site.classes⟩
  have units : ((Creator.standard.create site).driver.units.filter
      fun unit => unit.component == component.className) =
        (replayComponent (TemplateSet.ofList builtinTemplates) scene component).units :=
    synthesize_units_of_component (fun _ member => member) keyed stored
  rcases List.mem_cons.mp known with rfl | later
  · have replayed : replayComponent (TemplateSet.ofList builtinTemplates) scene component =
        servletTemplate.instantiate scene component := by
      rw [replayComponent, kind]
      rfl
    rw [replayed] at units
    exact ⟨_, units, servletDraft_replays scene component⟩
  · rw [List.mem_singleton.mp later] at kind ⊢
    have replayed : replayComponent (TemplateSet.ofList builtinTemplates) scene component =
        filterTemplate.instantiate scene component := by
      rw [replayComponent, kind]
      rfl
    rw [replayed] at units
    exact ⟨_, units, filterDraft_replays scene component⟩

/-- With the standard creator nothing that a readable deployment descriptor declares is lost.  A
declared class is a component under its name; it has every pattern that is mapped to a name of which
it is the last class; and while it is of the declared kind it has exactly one unit, which allocates
it first and requests each of its patterns from it. -/
theorem declared_not_lost :
    ∃ creator, Creator.ofRegistry Registry.builtin builtinCatalog = .ok creator ∧
      Creator.ofSettings {} = .ok creator ∧
      ∀ form ∈ [servletForm, filterForm], ∀ (site : Site) (bytes : ByteArray) (source : Source),
        site.loader.read deploymentDescriptor = .ok bytes →
        openSource deploymentDescriptor Deployment.roots bytes = .ok source →
        ∀ element ∈ source.document.root.childrenNamed form.element, ∀ name className,
          form.Declares element name className →
          ∃ component, (creator.create site).app.component? className = some component ∧
            component.className = className ∧ name ∈ component.names ∧
            (∀ mapped, form.LastDeclares source.document.root mapped className →
              ∀ pattern, form.Maps source.document.root mapped pattern →
                pattern ∈ component.urlPatterns) ∧
            (component.kind = form.kind →
              ∃ unit, ((creator.create site).driver.units.filter
                  fun unit => unit.component == className) = [unit] ∧
                ReplaysCalls unit.statements component form.method) := by
  refine ⟨Creator.standard, rfl, rfl, ?_⟩
  intro form known site bytes source success opened element member name className declares
  let course := Course.ofSelection ["servlet", "struts"] false site.loader
  let content := Deployment.contentOf source.document.root
  have read : descriptorContent? site.loader deploymentDescriptor = some content := by
    simp only [descriptorContent?, success, opened]
    rfl
  have taken : course.descriptorStage = true := hasResource_of_read success
  obtain ⟨part, partMember, fits⟩ : ∃ part ∈ content.sections,
      form.Fits source.document.root part := by
    rcases List.mem_cons.mp known with rfl | later
    · exact ⟨_, List.mem_cons_self, DeclarationForm.servletForm_fits _⟩
    · rw [List.mem_singleton.mp later]
      exact ⟨_, List.mem_cons_of_mem _ (List.mem_singleton.mpr rfl),
        DeclarationForm.filterForm_fits _⟩
  obtain ⟨entry, entryMember, rfl, rfl⟩ := fits.declared element member name className declares
  obtain ⟨component, found, named⟩ := Course.declared_in_effect taken read partMember entryMember
  have keyed := (course.wellFormed_effect site Application.wellFormed_empty).keyed
  have ofClass := keyed _ component found
  rw [Creator.standard_app]
  refine ⟨component, found, ofClass, named, ?_, ?_⟩
  · intro mapped last pattern maps
    obtain ⟨mapping, mappingMember, ofName, listed⟩ := fits.mapped mapped pattern maps
    obtain ⟨carrier, foundCarrier, patterns, _⟩ := Course.mapped_in_effect taken read partMember
      (fits.last mapped _ last) mappingMember ofName
    rw [found] at foundCarrier
    cases foundCarrier
    exact patterns pattern listed
  · intro kind
    rw [← ofClass]
    refine Creator.standard_unit known site ?_ kind
    rw [Creator.standard_app, ofClass]
    exact found

/-- A descriptor that declares one servlet and maps one pattern to it. -/
def mappedServlet : Site :=
  Site.ofTexts
    [("app/WEB-INF/web.xml",
      "<web-app><servlet><servlet-name>n</servlet-name><servlet-class>C</servlet-class></servlet>" ++
        "<servlet-mapping><servlet-name>n</servlet-name><url-pattern>/p</url-pattern>" ++
          "</servlet-mapping></web-app>")]

theorem mappedServlet_opens :
    ∃ bytes source, mappedServlet.loader.read deploymentDescriptor = .ok bytes ∧
      openSource deploymentDescriptor Deployment.roots bytes = .ok source ∧
      (∃ element, source.document.root.childrenNamed "servlet" = [element] ∧
        childText? element "servlet-name" = some "n" ∧
        childText? element "servlet-class" = some "C") ∧
      ∃ element, source.document.root.childrenNamed "servlet-mapping" = [element] ∧
        childText? element "servlet-name" = some "n" ∧
        childTexts element "url-pattern" = ["/p"] := by
  have readable : (mappedServlet.loader.read deploymentDescriptor).toOption.any (fun bytes =>
      (openSource deploymentDescriptor Deployment.roots bytes).toOption.any fun source =>
        (source.document.root.childrenNamed "servlet").map (fun element =>
          (childText? element "servlet-name", childText? element "servlet-class")) ==
          [(some "n", some "C")] &&
        (source.document.root.childrenNamed "servlet-mapping").map (fun element =>
          (childText? element "servlet-name", childTexts element "url-pattern")) ==
          [(some "n", ["/p"])]) = true := by decide +kernel
  obtain ⟨bytes, success, opens⟩ := exists_ok_of_any readable
  obtain ⟨source, opened, stated⟩ := exists_ok_of_any opens
  simp only [Bool.and_eq_true, beq_iff_eq, List.map_eq_singleton_iff, Prod.mk.injEq] at stated
  exact ⟨bytes, source, success, opened, stated⟩

theorem declared_not_lost_with_pattern :
    ∃ component, (Creator.standard.create mappedServlet).app.component? "C" = some component ∧
      "n" ∈ component.names ∧ "/p" ∈ component.urlPatterns ∧
      (component.kind = .servlet →
        ∃ unit, ((Creator.standard.create mappedServlet).driver.units.filter
            fun unit => unit.component == "C") = [unit] ∧
          ReplaysCalls unit.statements component "service") := by
  obtain ⟨bytes, source, success, opened, ⟨element, servlets, declares⟩,
    ⟨mapping, mappings, mapped, patterns⟩⟩ := mappedServlet_opens
  have member : element ∈ source.document.root.childrenNamed servletForm.element := by
    rw [servletForm, servlets]
    exact List.mem_cons_self
  have maps : servletForm.Maps source.document.root "n" "/p" := by
    refine ⟨mapping, ?_, mapped, ?_⟩
    · rw [servletForm, mappings]
      exact List.mem_cons_self
    · rw [patterns]
      exact List.mem_cons_self
  have last : servletForm.LastDeclares source.document.root "n" "C" := by
    refine ⟨[], element, [], servlets, declares, fun later laterMember => ?_⟩
    cases laterMember
  obtain ⟨creator, default, _, kept⟩ := declared_not_lost
  cases Except.ok.inj (default.symm.trans Creator.ofRegistry_builtin)
  obtain ⟨component, found, _, carried, mappedPatterns, replayed⟩ :=
    kept servletForm List.mem_cons_self mappedServlet bytes source success opened element member
      "n" "C" declares
  exact ⟨component, found, carried, mappedPatterns "n" last "/p" maps, replayed⟩

end ContainerReplay
