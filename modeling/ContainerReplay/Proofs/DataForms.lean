import ContainerReplay.Interchange.Reading
import ContainerReplay.Interchange.Writing
import ContainerReplay.Proofs.ClassOrigins
import ContainerReplay.Proofs.SpelledValues

/-!
# Data forms read back

Every text of the data form of an action mapping, an injection, a class signature, a class index or a
diagnostic is read back as the value that was written.  What the reader of a record has collected is
told by the keys that it has read.
-/

set_option autoImplicit false

namespace ContainerReplay

open Json (Reads Fills Takes takes_of reads_text reads_truth readAlso)

/-- What is known of a value by whether its key has been read. -/
def known {α : Type} (read : Bool) (value : α) : Option α :=
  if read then some value else none

@[simp] theorem known_true {α : Type} (value : α) : known true value = some value := rfl

@[simp] theorem known_false {α : Type} (value : α) : known false value = none := rfl

@[simp] theorem known_isSome {α : Type} (found : Option α) :
    (known found.isSome found).getD none = found := by
  cases found <;> rfl

@[simp] theorem known_self (flag : Bool) : (known flag flag).getD false = flag := by
  cases flag <;> rfl

section

variable {α : Type} {write : α → Json} {found : Option α}

theorem mem_optionalField {name key : String} {json : Json} :
    (key, json) ∈ Json.optionalField name write found ↔
      key = name ∧ ∃ value, found = some value ∧ json = write value := by
  cases found <;> simp [Json.optionalField]

@[simp] theorem mem_names_optionalField {name key : String} :
    key ∈ (Json.optionalField name write found).map Prod.fst ↔ key = name ∧ found.isSome := by
  cases found <;> simp [Json.optionalField]

theorem optionalField_sublist (name : String) :
    ((Json.optionalField name write found).map Prod.fst).Sublist [name] := by
  cases found with
  | none => exact List.nil_sublist [name]
  | some value => exact .refl [name]

end

theorem reads_texts (items : List String) :
    Reads (Json.Reader.list Json.Reader.text) (Json.texts items) items :=
  Reads.list fun item _ => reads_text item

/-! ## Action mappings -/

def Forward.partly (forward : Forward) (read : String → Bool) : PartialForward where
  name := known (read "name") forward.name
  path := known (read "path") forward.path
  redirect := known (read "redirect") forward.redirect

theorem Forward.reads (forward : Forward) : Reads Forward.reader forward.toJson forward := by
  have fills : Fills form forward.partly
      [("name", .text forward.name), ("path", .text forward.path),
        ("redirect", .truth forward.redirect)] forward := by
    refine ⟨by simp, rfl, ?_, by simp [partly, form, PartialForward.finish, Json.demand]⟩
    intro key json member read new
    simp only [List.mem_cons, Prod.mk.injEq, List.not_mem_nil, or_false] at member
    rcases member with ⟨rfl, rfl⟩ | ⟨rfl, rfl⟩ | ⟨rfl, rfl⟩
    · exact takes_of rfl (by simp [partly, new]) (reads_text _) (by simp [partly, readAlso])
    · exact takes_of rfl (by simp [partly, new]) (reads_text _) (by simp [partly, readAlso])
    · exact takes_of rfl (by simp [partly, new]) (reads_truth _) (by simp [partly, readAlso])
  exact fills.reads

def ActionMapping.partly (mapping : ActionMapping) (read : String → Bool) : PartialMapping where
  path := known (read "path") mapping.path
  handlerClass := known (read "handler_class") mapping.handlerClass
  formName := known (read "form_name") mapping.formName
  formClass := known (read "form_class") mapping.formClass
  scope := known (read "scope") mapping.scope
  forwards := known (read "forwards") mapping.forwards

theorem ActionMapping.reads (mapping : ActionMapping) :
    Reads ActionMapping.reader mapping.toJson mapping := by
  have fills : Fills form mapping.partly
      ([("path", .text mapping.path), ("handler_class", .text mapping.handlerClass)] ++
        Json.optionalField "form_name" .text mapping.formName ++
        Json.optionalField "form_class" .text mapping.formClass ++
        Json.optionalField "scope" .text mapping.scope ++
        [("forwards", .array (mapping.forwards.map Forward.toJson))]) mapping := by
    refine ⟨?_, rfl, ?_, ?_⟩
    · have all : ["path", "handler_class", "form_name", "form_class", "scope", "forwards"].Nodup := by
        decide
      refine all.sublist ?_
      simp only [List.map_append]
      exact ((((List.Sublist.refl ["path", "handler_class"]).append
        (optionalField_sublist "form_name")).append (optionalField_sublist "form_class")).append
          (optionalField_sublist "scope")).append (.refl ["forwards"])
    · intro key json member read new
      simp only [List.mem_append, List.mem_cons, Prod.mk.injEq, List.not_mem_nil, or_false,
        mem_optionalField, or_assoc] at member
      rcases member with ⟨rfl, rfl⟩ | ⟨rfl, rfl⟩ | ⟨rfl, value, present, rfl⟩ |
        ⟨rfl, value, present, rfl⟩ | ⟨rfl, value, present, rfl⟩ | ⟨rfl, rfl⟩
      · exact takes_of rfl (by simp [partly, new]) (reads_text _) (by simp [partly, readAlso])
      · exact takes_of rfl (by simp [partly, new]) (reads_text _) (by simp [partly, readAlso])
      · exact takes_of rfl (by simp [partly, new]) ((reads_text value).optional (by simp))
          (by simp [partly, readAlso, present])
      · exact takes_of rfl (by simp [partly, new]) ((reads_text value).optional (by simp))
          (by simp [partly, readAlso, present])
      · exact takes_of rfl (by simp [partly, new]) ((reads_text value).optional (by simp))
          (by simp [partly, readAlso, present])
      · exact takes_of rfl (by simp [partly, new]) (Reads.list fun forward _ => forward.reads)
          (by simp [partly, readAlso])
    · simp [partly, form, PartialMapping.finish, Json.demand]
  exact fills.reads

/-! ## Injections -/

def InjectionTarget.partly (target : InjectionTarget) (read : String → Bool) : PartialTarget where
  targetClass := known (read "target_class") target.targetClass
  targetName := known (read "target_name") target.targetName

theorem InjectionTarget.reads (target : InjectionTarget) :
    Reads InjectionTarget.reader target.toJson target := by
  have fills : Fills form target.partly
      [("target_class", .text target.targetClass), ("target_name", .text target.targetName)]
      target := by
    refine ⟨by simp, rfl, ?_, by simp [partly, form, PartialTarget.finish, Json.demand]⟩
    intro key json member read new
    simp only [List.mem_cons, Prod.mk.injEq, List.not_mem_nil, or_false] at member
    rcases member with ⟨rfl, rfl⟩ | ⟨rfl, rfl⟩
    · exact takes_of rfl (by simp [partly, new]) (reads_text _) (by simp [partly, readAlso])
    · exact takes_of rfl (by simp [partly, new]) (reads_text _) (by simp [partly, readAlso])
  exact fills.reads

def Injection.partly (injection : Injection) (read : String → Bool) : PartialInjection where
  resourceName := known (read "resource_name") injection.resourceName
  resourceType := known (read "resource_type") injection.resourceType
  target := known (read "target") injection.target

theorem Injection.reads (injection : Injection) :
    Reads Injection.reader injection.toJson injection := by
  have fills : Fills form injection.partly
      ([("resource_name", .text injection.resourceName)] ++
        Json.optionalField "resource_type" .text injection.resourceType ++
        [("target", injection.target.toJson)]) injection := by
    refine ⟨?_, rfl, ?_, by simp [partly, form, PartialInjection.finish, Json.demand]⟩
    · have all : ["resource_name", "resource_type", "target"].Nodup := by decide
      refine all.sublist ?_
      simp only [List.map_append]
      exact ((List.Sublist.refl ["resource_name"]).append
        (optionalField_sublist "resource_type")).append (.refl ["target"])
    · intro key json member read new
      simp only [List.mem_append, List.mem_cons, Prod.mk.injEq, List.not_mem_nil, or_false,
        mem_optionalField, or_assoc] at member
      rcases member with ⟨rfl, rfl⟩ | ⟨rfl, value, present, rfl⟩ | ⟨rfl, rfl⟩
      · exact takes_of rfl (by simp [partly, new]) (reads_text _) (by simp [partly, readAlso])
      · exact takes_of rfl (by simp [partly, new]) ((reads_text value).optional (by simp))
          (by simp [partly, readAlso, present])
      · exact takes_of rfl (by simp [partly, new]) injection.target.reads
          (by simp [partly, readAlso])
  exact fills.reads

/-! ## Class signatures -/

def ClassInfo.partly (info : ClassInfo) (read : String → Bool) : PartialClass where
  name := known (read "name") info.name
  superClass := known (read "super_class") info.superClass
  interfaces := known (read "interfaces") info.interfaces
  annotations := known (read "annotations") info.annotations
  isAbstract := known (read "is_abstract") info.isAbstract

theorem ClassInfo.reads (info : ClassInfo) : Reads ClassInfo.reader info.toJson info := by
  have fills : Fills form info.partly
      ([("name", .text info.name)] ++ Json.optionalField "super_class" .text info.superClass ++
        [("interfaces", Json.texts info.interfaces),
          ("annotations", Json.texts info.annotations)] ++
        (if info.isAbstract then [("is_abstract", .truth true)] else [])) info := by
    refine ⟨?_, rfl, ?_, ?_⟩
    · have all : ["name", "super_class", "interfaces", "annotations", "is_abstract"].Nodup := by
        decide
      have flag : ((if info.isAbstract then [("is_abstract", Json.truth true)] else []).map
          Prod.fst).Sublist ["is_abstract"] := by
        cases info.isAbstract
        · exact List.nil_sublist _
        · exact .refl _
      refine all.sublist ?_
      simp only [List.map_append]
      exact (((List.Sublist.refl ["name"]).append (optionalField_sublist "super_class")).append
        (.refl ["interfaces", "annotations"])).append flag
    · intro key json member read new
      simp only [List.mem_append, List.mem_cons, Prod.mk.injEq, List.not_mem_nil, or_false,
        mem_optionalField, List.mem_ite_nil_right, or_assoc] at member
      rcases member with ⟨rfl, rfl⟩ | ⟨rfl, value, present, rfl⟩ | ⟨rfl, rfl⟩ | ⟨rfl, rfl⟩ |
        ⟨flag, rfl, rfl⟩
      · exact takes_of rfl (by simp [partly, new]) (reads_text _) (by simp [partly, readAlso])
      · exact takes_of rfl (by simp [partly, new]) ((reads_text value).optional (by simp))
          (by simp [partly, readAlso, present])
      · exact takes_of rfl (by simp [partly, new]) (reads_texts _) (by simp [partly, readAlso])
      · exact takes_of rfl (by simp [partly, new]) (reads_texts _) (by simp [partly, readAlso])
      · exact takes_of rfl (by simp [partly, new]) (reads_truth true)
          (by simp [partly, readAlso, flag])
    · obtain ⟨name, superClass, interfaces, annotations, isAbstract⟩ := info
      cases isAbstract <;> simp [partly, form, PartialClass.finish, Json.demand]
  exact fills.reads

theorem ClassIndex.get?_foldl_insert (infos : List ClassInfo) (index : ClassIndex)
    (name : String) :
    (infos.foldl insert index).get? name =
      (infos.reverse.find? fun info => info.name == name).or (index.get? name) := by
  -- of two classes with one name the later stays, so the search runs from the end
  induction infos generalizing index with
  | nil => exact Option.none_or.symm
  | cons info rest ih =>
      have added : (index.insert info).get? name =
          if info.name = name then some info else index.get? name := by
        simp only [get?, insert, Std.ExtTreeMap.getElem?_insert, Std.compare_eq_iff_eq]
      rw [List.foldl_cons, ih, List.reverse_cons, List.find?_append, List.find?_singleton,
        Option.or_assoc, added]
      by_cases same : info.name = name
      · simp [same]
      · simp [same]

theorem ClassIndex.Keyed.find?_toList {index : ClassIndex} (keyed : index.Keyed) (name : String) :
    (index.toList.reverse.find? fun info => info.name == name) = index.get? name := by
  have named : ∀ info ∈ index.toList, index.get? info.name = some info := by
    intro info listed
    obtain ⟨key, found⟩ := (index.mem_toList_iff info).mp listed
    rwa [keyed key info found]
  cases answer : index.toList.reverse.find? fun info => info.name == name with
  | some info =>
      have listed := List.mem_reverse.mp (List.mem_of_find?_eq_some answer)
      have same : info.name = name := beq_iff_eq.mp (List.find?_some answer : _ = true)
      rw [← same, named info listed]
  | none =>
      have missing := List.find?_eq_none.mp answer
      cases found : index.get? name with
      | none => rfl
      | some info =>
          have listed := List.mem_reverse.mpr ((index.mem_toList_iff info).mpr ⟨name, found⟩)
          exact absurd (beq_iff_eq.mpr (keyed name info found)) (missing info listed)

/-- Putting the classes of an index into an empty one gives the index back. -/
theorem ClassIndex.Keyed.ofList_toList {index : ClassIndex} (keyed : index.Keyed) :
    ofList index.toList = index := by
  have same : (ofList index.toList).classes = index.classes := by
    refine Std.ExtTreeMap.ext_getElem? fun name => ?_
    have answer := get?_foldl_insert index.toList empty name
    rw [keyed.find?_toList name] at answer
    exact answer.trans (by simp [get?, empty])
  exact congrArg mk same

theorem ClassIndex.Keyed.ofText_spelled {index : ClassIndex} (keyed : index.Keyed) {text : String}
    (spelled : Json.Spelled index.toJson text.toList) : ofText text = .ok index := by
  have reads : Reads (.list ClassInfo.reader) index.toJson index.toList :=
    Reads.list fun info _ => info.reads
  rw [ofText, Json.readWhole_spelled reads spelled, Except.map, keyed.ofList_toList]

/-! ## Diagnostics -/

theorem Severity.ofText_key (severity : Severity) : ofText? severity.key = some severity := by
  cases severity <;> decide

theorem Severity.reads (severity : Severity) : Reads Severity.reader severity.toJson severity :=
  Json.reads_tagged _ severity.ofText_key

def Diagnostic.partly (diagnostic : Diagnostic) (read : String → Bool) : PartialDiagnostic where
  severity := known (read "severity") diagnostic.severity
  message := known (read "message") diagnostic.message
  resource := known (read "resource") diagnostic.resource

theorem Diagnostic.reads (diagnostic : Diagnostic) :
    Reads Diagnostic.reader diagnostic.toJson diagnostic := by
  have fills : Fills form diagnostic.partly
      ([("severity", diagnostic.severity.toJson), ("message", .text diagnostic.message)] ++
        Json.optionalField "resource" .text diagnostic.resource) diagnostic := by
    refine ⟨?_, rfl, ?_, by simp [partly, form, PartialDiagnostic.finish, Json.demand]⟩
    · have all : ["severity", "message", "resource"].Nodup := by decide
      refine all.sublist ?_
      simp only [List.map_append]
      exact (List.Sublist.refl ["severity", "message"]).append (optionalField_sublist "resource")
    · intro key json member read new
      simp only [List.mem_append, List.mem_cons, Prod.mk.injEq, List.not_mem_nil, or_false,
        mem_optionalField, or_assoc] at member
      rcases member with ⟨rfl, rfl⟩ | ⟨rfl, rfl⟩ | ⟨rfl, value, present, rfl⟩
      · exact takes_of rfl (by simp [partly, new]) diagnostic.severity.reads
          (by simp [partly, readAlso])
      · exact takes_of rfl (by simp [partly, new]) (reads_text _) (by simp [partly, readAlso])
      · exact takes_of rfl (by simp [partly, new]) ((reads_text value).optional (by simp))
          (by simp [partly, readAlso, present])
  exact fills.reads

/-! ## Reading back -/

/-- A value is read back from the text that it is written as, and from every other text of its data
form. -/
def Json.ReadsBack {α : Type} (reader : Reader α) (write : α → Json) : Prop :=
  ∀ value, readWhole reader (write value).compact = .ok value ∧
    ∀ text, Spelled (write value) text.toList → readWhole reader text = .ok value

theorem Json.readsBack_of {α : Type} {reader : Reader α} {write : α → Json}
    (reads : ∀ value, Reads reader (write value) value) : ReadsBack reader write := by
  intro value
  have every : ∀ text, Spelled (write value) text.toList → readWhole reader text = .ok value :=
    fun _ spelled => readWhole_spelled (reads value) spelled
  exact ⟨every _ (spelled_compact _), every⟩

/-- No value is lost in its data form, wherever blanks stand and in whatever order the fields of an
object come.  An index is read back whole, so every question about its classes has the same answer. -/
theorem dataForms_read_back :
    Json.ReadsBack ActionMapping.reader ActionMapping.toJson ∧
      Json.ReadsBack ClassInfo.reader ClassInfo.toJson ∧
      Json.ReadsBack Injection.reader Injection.toJson ∧
      Json.ReadsBack Diagnostic.reader Diagnostic.toJson ∧
      ∀ index : ClassIndex, index.Keyed →
        ClassIndex.ofText index.toJson.compact = .ok index ∧
          ∀ text : String, Json.Spelled index.toJson text.toList →
            ClassIndex.ofText text = .ok index :=
  ⟨Json.readsBack_of ActionMapping.reads, Json.readsBack_of ClassInfo.reads,
    Json.readsBack_of Injection.reads, Json.readsBack_of Diagnostic.reads,
    fun _ keyed => ⟨keyed.ofText_spelled (Json.spelled_compact _),
      fun _ spelled => keyed.ofText_spelled spelled⟩⟩

def guardedMapping : ActionMapping where
  path := "/say\"hi\""
  handlerClass := "com.example.Say"
  scope := some ""
  forwards := [⟨"null", "/a,b]", true⟩, ⟨"", "\n\t\\", false⟩]

def sessionClasses : List ClassInfo :=
  [{ name := "com.example.Sessions", superClass := some "com.example.Base", isAbstract := true },
    { name := "com.example.Base", interfaces := ["a.B", "c.D"] }, { name := "com.example.Sessions" }]

theorem dataForms_read_back_guarded :
    Json.readWhole ActionMapping.reader guardedMapping.toJson.pretty = .ok guardedMapping ∧
      Json.readWhole Diagnostic.reader (Diagnostic.toJson ⟨.warn, "\x7b", none⟩).compact =
        .ok ⟨.warn, "\x7b", none⟩ ∧
      ClassIndex.ofText (ClassIndex.ofList sessionClasses).toJson.pretty =
        .ok (ClassIndex.ofList sessionClasses) := by
  obtain ⟨mapping, -, -, diagnostic, index⟩ := dataForms_read_back
  exact ⟨(mapping _).2 _ (Json.spelled_pretty _), (diagnostic _).1,
    (index _ (ClassIndex.keyed_ofList sessionClasses)).2 _ (Json.spelled_pretty _)⟩

end ContainerReplay
